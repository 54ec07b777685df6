import LaluneServer.Lib.ListUpdate
import LaluneServer.NetLib.Server

/- Runs of a server. At most one accept is under way, and exactly one while the server is
   started, open and without an error; an accept that failed is never repeated. A Stop
   leaves no session connected but those whose handler was already past the check of
   m_closed. -/
namespace LaluneServer.NetLib
open Transition

namespace TcpSession

variable {s : TcpSession}

theorem closeSession_closed (error : NetLibError) (internal : Outcome) :
    (s.closeSessionAndHandleError error internal).1.isConnected = false := by
  unfold closeSessionAndHandleError
  split
  · rfl
  · rename_i closed
    exact Bool.not_eq_true _ ▸ closed

theorem tcpHeaderRecv_closes (maxPacketSize : Nat) (error : Outcome) (size : Nat)
    (connected : (s.tcpHeaderRecv maxPacketSize error size).1.isConnected = true) :
    s.isConnected = true := by
  rcases tcpHeaderRecv_cases (s := s) maxPacketSize error size with
    ⟨e, _, stopped⟩ | ⟨fine, _⟩
  · rw [stopped] at connected
    exact absurd (closeSession_closed e error) (by simpa [stopReading] using connected)
  · exact fine

theorem tcpRecvAsyncFinished_closes (error : Outcome) (rest : Bytes)
    (connected : (s.tcpRecvAsyncFinished error rest).1.isConnected = true) :
    s.isConnected = true := by
  rcases tcpRecvAsyncFinished_cases (s := s) error rest with ⟨e, _, stopped⟩ | ⟨fine, _⟩
  · rw [stopped] at connected
    exact absurd (closeSession_closed e error) (by simpa [stopReading] using connected)
  · exact fine

theorem tcpSendAsyncFinished_closes {error : Outcome} {r : SessionResult}
    (done : s.tcpSendAsyncFinished error = some r) (connected : r.1.isConnected = true) :
    s.isConnected = true := by
  rcases tcpSendAsyncFinished_cases done with rfl | ⟨_, fine, _⟩
  · exact absurd (closeSession_closed .clientRecvError error) (by simpa using connected)
  · exact fine

theorem takeWrite_isConnected {t : TcpSession} (taken : s.takeWrite = some t) :
    t.isConnected = s.isConnected := by
  obtain ⟨_, _, _, rfl⟩ := takeWrite_cases taken
  rfl

end TcpSession

namespace ServerSession

def Stays (c d : ServerSession) : Prop :=
  d.isConnected = true → c.isConnected = true ∧ d.inSessionsSet = c.inSessionsSet

variable {c d : ServerSession} {s : TcpSession}

theorem ownerCall_session (c : ServerSession) (call : OwnerCall) :
    (c.ownerCall call).sessionDetail = c.sessionDetail ∧
      (c.ownerCall call).inSessionsSet = c.inSessionsSet := by
  cases call with
  | decreasePendingOpsCount =>
    simp only [ownerCall, decreasePendingOpsCount]
    split <;> exact ⟨rfl, rfl⟩
  | recvFinishHandler data =>
    simp only [ownerCall, recvFinishHandler]
    split
    · split <;> exact ⟨rfl, rfl⟩
    · exact ⟨rfl, rfl⟩
  | _ => exact ⟨rfl, rfl⟩

theorem ownerCalls_session (calls : List OwnerCall) (c : ServerSession) :
    (calls.foldl ownerCall c).sessionDetail = c.sessionDetail ∧
      (calls.foldl ownerCall c).inSessionsSet = c.inSessionsSet := by
  induction calls generalizing c with
  | nil => exact ⟨rfl, rfl⟩
  | cons call calls ih =>
    obtain ⟨session, member⟩ := ih (c.ownerCall call)
    obtain ⟨same, sameMember⟩ := ownerCall_session c call
    exact ⟨session.trans same, member.trans sameMember⟩

theorem stays_of_same (session : d.sessionDetail = c.sessionDetail)
    (member : d.inSessionsSet = c.inSessionsSet) : Stays c d := by
  intro connected
  unfold isConnected at connected ⊢
  rw [session] at connected
  exact ⟨connected, member⟩

theorem Stays.trans {b : ServerSession} (first : Stays b c) (second : Stays c d) :
    Stays b d := by
  intro connected
  obtain ⟨between, member⟩ := second connected
  obtain ⟨before, earlier⟩ := first between
  exact ⟨before, member.trans earlier⟩

theorem stays_applySession (session : c.sessionDetail = some s) {result : SessionResult}
    (closes : result.1.isConnected = true → s.isConnected = true) :
    Stays c (c.applySession result) := by
  intro connected
  obtain ⟨same, member⟩ := ownerCalls_session result.2 (c.withSession result.1)
  unfold isConnected applySession at connected
  rw [same] at connected
  refine ⟨?_, member⟩
  rw [isConnected, session]
  exact closes connected

theorem stays_sendPacket (c : ServerSession) (packet : NetlibPacket) :
    Stays c (c.sendPacket packet) := by
  unfold sendPacket
  split
  · rename_i s session
    split
    · rename_i connected
      exact stays_applySession session (fun _ => connected)
    · exact stays_of_same rfl rfl
  · exact stays_of_same rfl rfl

theorem stays_accept (c : ServerSession) (data : Bytes) (copy : Bool) (pHint : BitVec 64) :
    Stays c (c.accept data copy pHint) :=
  (stays_of_same rfl rfl).trans (stays_sendPacket _ _)

theorem disconnect_closed (c : ServerSession) : c.disconnect.isConnected = false := by
  unfold disconnect
  split
  · rename_i s session
    obtain ⟨same, _⟩ := ownerCalls_session s.disconnect.2 (c.withSession s.disconnect.1)
    unfold isConnected applySession
    rw [same]
    exact TcpSession.closeSession_closed .closeByLocal none
  · rename_i none
    unfold isConnected
    rw [none]
    rfl

theorem stays_disconnect (c : ServerSession) : Stays c c.disconnect := by
  intro connected
  rw [disconnect_closed] at connected
  contradiction

theorem stays_timeoutHandler (c : ServerSession) : Stays c c.timeoutHandler := by
  unfold timeoutHandler
  split
  · rename_i s session
    split
    · rename_i connected
      exact stays_applySession session (fun _ => connected)
    · exact stays_of_same rfl rfl
  · exact stays_of_same rfl rfl

theorem stays_processFailedPackets (session : c.sessionDetail = some s) {t : TcpSession}
    (same : t.isConnected = s.isConnected) : Stays c (c.processFailedPackets t) := by
  unfold processFailedPackets
  split
  · exact nofun
  · intro connected
    refine ⟨?_, rfl⟩
    rw [isConnected, session]
    exact same.symm.trans connected

theorem stays_decrease (c : ServerSession) : Stays c c.decreasePendingOpsCount := by
  have same := ownerCall_session c .decreasePendingOpsCount
  exact stays_of_same same.1 same.2

theorem stays_delegateReturned {r : ServerRunning} (returned : c.delegateReturned r = some d) :
    Stays c d := by
  cases r with
  | connectedHandler =>
    obtain ⟨s, session, rfl⟩ := Option.map_eq_some_iff.mp returned
    have called : Stays c ({ c with running := none }.call .connectedHandler) :=
      stays_of_same rfl rfl
    refine called.trans (stays_applySession (s := s) ?_ (fun connected => connected))
    exact session
  | sendFinish packet =>
    cases returned
    exact (stays_of_same rfl rfl).trans (stays_decrease _)
  | processFailed =>
    obtain ⟨s, session, returned⟩ := Option.bind_eq_some_iff.mp returned
    split at returned
    · contradiction
    · rename_i front rest queue
      cases returned
      have called : Stays c (c.call (.sendFailedHandler front)) := stays_of_same rfl rfl
      refine called.trans (stays_processFailedPackets (s := s) ?_ rfl)
      exact session

variable {maxPacketSize : Nat} {e : ServerSessionEvent}

theorem stays_step (moved : step maxPacketSize c e = some d) : Stays c d := by
  cases occurs_of_step moved with
  | sendAsync data pHint => exact stays_accept c data false pHint
  | sendCopyAsync data pHint => exact stays_accept c _ true pHint
  | disconnect => exact stays_disconnect c
  | recvHandlerReturned session reading =>
    intro connected
    refine ⟨?_, rfl⟩
    rw [isConnected, session]
    exact connected
  | delegateReturned running returned => exact stays_delegateReturned returned
  | headerRead error size session reading =>
    exact stays_applySession session (TcpSession.tcpHeaderRecv_closes maxPacketSize error size)
  | bodyRead error rest session reading whole =>
    exact stays_applySession session (TcpSession.tcpRecvAsyncFinished_closes error rest)
  | writeDone error idle session taken done =>
    refine stays_applySession session (fun connected => ?_)
    rw [← TcpSession.takeWrite_isConnected taken]
    exact TcpSession.tcpSendAsyncFinished_closes done connected
  | @runDisconnected s idle posted session =>
    have started : Stays c { c with
        disconnectedPosts := c.disconnectedPosts - 1, teardowns := c.teardowns + 1 } :=
      stays_of_same rfl rfl
    refine started.trans (stays_processFailedPackets (s := s) ?_ rfl)
    exact session
  | runTimeout taken => exact (stays_of_same rfl rfl).trans (stays_timeoutHandler _)
  | _ => exact stays_of_same rfl rfl

end ServerSession

namespace NetLibServer

variable {maxPacketSize : Nat} {w v : NetLibServer} {e : NetLibServerEvent}

theorem sessionStep_cases {index : Nat} {event : ServerSessionEvent}
    (moved : w.sessionStep maxPacketSize index event = some v) :
    ∃ c d, w.sessions[index]? = some c ∧ c.step maxPacketSize event = some d ∧
      (w.stopping.isSome = true → d.inSessionsSet = c.inSessionsSet) ∧
      v = { w with sessions := w.sessions.set index d } := by
  obtain ⟨c, held, moved⟩ := Option.bind_eq_some_iff.mp moved
  obtain ⟨d, stepped, moved⟩ := Option.bind_eq_some_iff.mp moved
  simp only [Option.ite_none_left_eq_some, Option.some.injEq, not_and, ne_eq,
    Decidable.not_not] at moved
  obtain ⟨free, rfl⟩ := moved
  exact ⟨c, d, held, stepped, free, rfl⟩

theorem stopDisconnects_cases (moved : step maxPacketSize w .stopDisconnects = some v) :
    (w.stopping = some (.disconnect []) ∧ v = { w with
      stopping := none, swept := w.sessions.length, stopsDone := w.stopsDone + 1 }) ∨
    (∃ i rest, w.stopping = some (.disconnect (i :: rest)) ∧ v = { w with
      sessions := w.sessions.modify i ServerSession.disconnect
      stopping := some (.disconnect rest) }) := by
  simp only [step] at moved
  split at moved
  · rename_i finished
    cases moved
    exact Or.inl ⟨finished, rfl⟩
  · rename_i i rest next
    cases moved
    exact Or.inr ⟨i, rest, next, rfl⟩
  · contradiction

/-- The accept loop as a whole: from StartTCP on there is one accept under way, until an
    error was reported or the loop found the server closed. -/
structure Balanced (w : NetLibServer) : Prop where
  loop : w.acceptsUnderWay + w.errors.length + w.quietEnds = w.started.toNat
  quiet : 0 < w.quietEnds → w.closed = true
  starts : w.startResults.count true + w.listening + w.startAccepting + w.startArming ≤
    w.started.toNat

theorem balanced_startTCP (balanced : w.Balanced) (flags : BitVec 64) :
    (w.startTCP flags).Balanced := by
  obtain ⟨loop, quiet, starts⟩ := balanced
  unfold startTCP
  split
  · exact ⟨loop, quiet, by simpa using starts⟩
  · rename_i fresh
    have unstarted : w.started = false := by simpa using fun h => fresh (Or.inl h)
    simp only [unstarted, Bool.toNat_false] at loop starts
    refine ⟨?_, quiet, ?_⟩
    · simp only [acceptsUnderWay, Bool.toNat_true] at loop ⊢
      omega
    · simp only [Bool.toNat_true]
      omega

theorem balanced_listen (balanced : w.Balanced) (listening : w.listening ≠ 0)
    (error : Option ServerError) : (w.tcpStartListen error).Balanced := by
  obtain ⟨loop, quiet, starts⟩ := balanced
  cases error with
  | none =>
    refine ⟨?_, quiet, ?_⟩
    · simp only [tcpStartListen, acceptsUnderWay] at loop ⊢
      omega
    · simp only [tcpStartListen]
      omega
  | some error =>
    refine ⟨?_, quiet, ?_⟩
    · simp only [tcpStartListen, acceptsUnderWay, List.length_append,
        List.length_singleton] at loop ⊢
      omega
    · simp only [tcpStartListen, List.count_append, List.count_singleton,
        Bool.false_eq_true, beq_iff_eq, ↓reduceIte]
      omega

theorem asyncAccept_fields (w : NetLibServer) :
    w.asyncAccept.acceptsUnderWay = w.acceptsUnderWay + 1 ∧
      w.asyncAccept.errors = w.errors ∧ w.asyncAccept.quietEnds = w.quietEnds ∧
      w.asyncAccept.started = w.started ∧ w.asyncAccept.closed = w.closed ∧
      w.asyncAccept.startResults = w.startResults ∧ w.asyncAccept.listening = w.listening ∧
      w.asyncAccept.startAccepting = w.startAccepting ∧
      w.asyncAccept.startArming = w.startArming := by
  unfold asyncAccept
  split
  · refine ⟨?_, rfl, rfl, rfl, rfl, rfl, rfl, rfl, rfl⟩
    simp only [acceptsUnderWay]
    omega
  · exact ⟨rfl, rfl, rfl, rfl, rfl, rfl, rfl, rfl, rfl⟩

theorem balanced_asyncAccept {u : NetLibServer}
    (loop : u.acceptsUnderWay + 1 + u.errors.length + u.quietEnds = u.started.toNat)
    (quiet : 0 < u.quietEnds → u.closed = true)
    (starts : u.startResults.count true + u.listening + u.startAccepting + u.startArming ≤
      u.started.toNat) : u.asyncAccept.Balanced := by
  obtain ⟨underWay, errors, ends, started, closed, results, listening, accepting, arming⟩ :=
    asyncAccept_fields u
  refine ⟨?_, ?_, ?_⟩
  · rw [underWay, errors, ends, started]
    exact loop
  · rw [ends, closed]
    exact quiet
  · rw [results, listening, accepting, arming, started]
    exact starts

theorem step_balanced (balanced : w.Balanced) (moved : step maxPacketSize w e = some v) :
    v.Balanced := by
  have ⟨loop, quiet, starts⟩ := balanced
  unfold acceptsUnderWay at loop
  cases e with
  | startTCP flags =>
    cases moved
    exact balanced_startTCP balanced flags
  | listen error =>
    simp only [step, Option.ite_none_left_eq_some, Option.some.injEq, not_or] at moved
    obtain ⟨⟨listening, _⟩, rfl⟩ := moved
    exact balanced_listen balanced listening error
  | startAccept =>
    simp only [step, Option.ite_none_left_eq_some] at moved
    obtain ⟨some_thread, moved⟩ := moved
    split at moved
    · rename_i closed
      cases moved
      refine ⟨?_, fun _ => closed, ?_⟩
      · simp only [acceptsUnderWay]
        omega
      · simp only [List.count_append, List.count_singleton_self]
        omega
    · cases moved
      refine ⟨?_, quiet, ?_⟩
      · simp only [acceptsUnderWay]
        omega
      · simp only
        omega
  | startArm =>
    simp only [step, Option.ite_none_left_eq_some, Option.some.injEq] at moved
    obtain ⟨some_thread, rfl⟩ := moved
    refine balanced_asyncAccept ?_ quiet ?_
    · simp only [acceptsUnderWay]
      omega
    · simp only [List.count_append, List.count_singleton_self]
      omega
  | connectionArrives =>
    simp only [step, Option.ite_none_left_eq_some, Option.some.injEq] at moved
    obtain ⟨pending, rfl⟩ := moved
    refine ⟨?_, quiet, starts⟩
    simp only [acceptsUnderWay]
    omega
  | acceptFails =>
    simp only [step, Option.ite_none_left_eq_some, Option.some.injEq] at moved
    obtain ⟨pending, rfl⟩ := moved
    refine ⟨?_, quiet, starts⟩
    simp only [acceptsUnderWay]
    omega
  | tcpAcceptHandler =>
    simp only [step, Option.ite_none_left_eq_some] at moved
    obtain ⟨socket, moved⟩ := moved
    split at moved
    · rename_i closed
      cases moved
      refine ⟨?_, fun _ => closed, starts⟩
      simp only [acceptsUnderWay]
      omega
    · cases moved
      refine ⟨?_, quiet, starts⟩
      simp only [acceptsUnderWay]
      omega
  | tcpAcceptHandlerError =>
    simp only [step, Option.ite_none_left_eq_some, Option.some.injEq] at moved
    obtain ⟨failed, rfl⟩ := moved
    refine ⟨?_, quiet, starts⟩
    simp only [acceptsUnderWay, List.length_append, List.length_singleton]
    omega
  | handlerAccept =>
    simp only [step, Option.ite_none_left_eq_some] at moved
    obtain ⟨some_thread, moved⟩ := moved
    split at moved
    · rename_i closed
      cases moved
      refine ⟨?_, fun _ => closed, starts⟩
      simp only [acceptsUnderWay]
      omega
    · cases moved
      refine ⟨?_, quiet, starts⟩
      simp only [acceptsUnderWay]
      omega
  | handlerArm =>
    simp only [step, Option.ite_none_left_eq_some, Option.some.injEq] at moved
    obtain ⟨some_thread, rfl⟩ := moved
    refine balanced_asyncAccept ?_ quiet starts
    simp only [acceptsUnderWay]
    omega
  | connectedHandler =>
    simp only [step, Option.ite_none_left_eq_some, Option.some.injEq] at moved
    obtain ⟨_, rfl⟩ := moved
    exact ⟨loop, quiet, starts⟩
  | session index event =>
    obtain ⟨c, d, _, _, _, rfl⟩ := sessionStep_cases moved
    exact ⟨loop, quiet, starts⟩
  | stop =>
    cases moved
    exact ⟨loop, fun _ => rfl, starts⟩
  | stopLocks =>
    simp only [step, Option.ite_none_left_eq_some, Option.some.injEq] at moved
    obtain ⟨_, rfl⟩ := moved
    exact ⟨loop, quiet, starts⟩
  | stopCloses =>
    simp only [step, Option.ite_none_right_eq_some, Option.some.injEq] at moved
    obtain ⟨_, rfl⟩ := moved
    unfold closeAcceptor
    split
    · refine ⟨?_, quiet, starts⟩
      simp only [acceptsUnderWay]
      omega
    · exact ⟨loop, quiet, starts⟩
  | stopDisconnects =>
    rcases stopDisconnects_cases moved with ⟨_, rfl⟩ | ⟨_, _, _, rfl⟩
    · exact ⟨loop, quiet, starts⟩
    · exact ⟨loop, quiet, starts⟩

/-- The sessions of a server: those that are connected can be found in sessions_set, and
    the Stop that holds the mutex still has to disconnect them all. -/
structure Guarded (w : NetLibServer) : Prop where
  sound : ∀ c ∈ w.sessions, c.Sound
  member : ∀ c ∈ w.sessions, c.isConnected = true → c.inSessionsSet = true
  bound : w.swept ≤ w.sessions.length
  disconnected : ∀ (i : Nat) (c : ServerSession), i < w.swept → w.sessions[i]? = some c →
    c.isConnected = false
  remaining : ∀ l : List Nat, w.stopping = some (.disconnect l) →
    ∀ (i : Nat) (c : ServerSession), w.sessions[i]? = some c → c.isConnected = true → i ∈ l

theorem Guarded.of_same (guarded : w.Guarded) (sessions : v.sessions = w.sessions)
    (swept : v.swept = w.swept) (stopping : v.stopping = w.stopping) : v.Guarded := by
  obtain ⟨sound, member, bound, disconnected, remaining⟩ := guarded
  refine ⟨?_, ?_, ?_, ?_, ?_⟩
  · rw [sessions]
    exact sound
  · rw [sessions]
    exact member
  · rw [sessions, swept]
    exact bound
  · rw [sessions, swept]
    exact disconnected
  · rw [sessions, stopping]
    exact remaining

theorem guarded_connectedHandler (guarded : w.Guarded) (free : w.stopping.isSome ≠ true) :
    w.connectedHandler.Guarded := by
  have none : w.stopping = none := by simpa using free
  obtain ⟨sound, member, bound, disconnected, _⟩ := guarded
  refine ⟨?_, ?_, ?_, ?_, ?_⟩
  · intro c held
    rcases List.mem_append.mp held with old | new
    · exact sound c old
    · rw [List.mem_singleton.mp new]
      exact ServerSession.sound_accepted w.flags
  · intro c held connected
    rcases List.mem_append.mp held with old | new
    · exact member c old connected
    · rw [List.mem_singleton.mp new]
      rfl
  · simp only [connectedHandler, List.length_append]
    exact Nat.le_add_right_of_le bound
  · intro i c early held
    have old : i < w.sessions.length := Nat.lt_of_lt_of_le early bound
    simp only [connectedHandler, List.getElem?_append_left old] at held
    exact disconnected i c early held
  · intro l stopping
    simp only [connectedHandler] at stopping
    rw [none] at stopping
    contradiction

theorem guarded_set (guarded : w.Guarded) {index : Nat} {c d : ServerSession}
    (held : w.sessions[index]? = some c) (sound : d.Sound) (stays : ServerSession.Stays c d) :
    { w with sessions := w.sessions.set index d }.Guarded := by
  have old : ∀ (i : Nat) (b : ServerSession), (w.sessions.set index d)[i]? = some b →
      b.isConnected = true → ∃ a, w.sessions[i]? = some a ∧ a.isConnected = true := by
    intro i b present connected
    rw [List.getElem?_set] at present
    split at present
    · rename_i here
      split at present
      · cases present
        exact ⟨c, here ▸ held, (stays connected).1⟩
      · contradiction
    · exact ⟨b, present, connected⟩
  refine ⟨?_, ?_, ?_, ?_, ?_⟩
  · intro b present
    rcases List.mem_or_eq_of_mem_set present with other | rfl
    · exact guarded.sound b other
    · exact sound
  · intro b present connected
    rcases List.mem_or_eq_of_mem_set present with other | rfl
    · exact guarded.member b other connected
    · obtain ⟨before, same⟩ := stays connected
      rw [same]
      exact guarded.member c (List.mem_of_getElem? held) before
  · rw [List.length_set]
    exact guarded.bound
  · intro i b early present
    rw [← Bool.not_eq_true]
    intro connected
    obtain ⟨a, before, still⟩ := old i b present connected
    have closed := guarded.disconnected i a early before
    rw [closed] at still
    contradiction
  · intro l stopping i b present connected
    obtain ⟨a, before, still⟩ := old i b present connected
    exact guarded.remaining l stopping i a before still

theorem mem_sessionsSet {i : Nat} {c : ServerSession} (held : w.sessions[i]? = some c)
    (member : c.inSessionsSet = true) : i ∈ w.sessionsSet := by
  obtain ⟨inside, _⟩ := List.getElem?_eq_some_iff.mp held
  simp only [sessionsSet, List.mem_filter, List.mem_range]
  refine ⟨inside, ?_⟩
  rw [held]
  exact member

theorem guarded_stopCloses (guarded : w.Guarded) :
    { w.closeAcceptor with stopping := some (.disconnect w.sessionsSet) }.Guarded := by
  have same : w.closeAcceptor.sessions = w.sessions ∧ w.closeAcceptor.swept = w.swept := by
    unfold closeAcceptor
    split <;> exact ⟨rfl, rfl⟩
  have closed : { w with stopping := some (.disconnect w.sessionsSet) }.Guarded := by
    refine ⟨guarded.sound, guarded.member, guarded.bound, guarded.disconnected, ?_⟩
    intro l stopping i c held connected
    cases stopping
    exact mem_sessionsSet held (guarded.member c (List.mem_of_getElem? held) connected)
  exact closed.of_same same.1 same.2 rfl

theorem guarded_disconnects (guarded : w.Guarded) {index : Nat} {rest : List Nat}
    (next : w.stopping = some (.disconnect (index :: rest))) :
    { w with
      sessions := w.sessions.modify index ServerSession.disconnect
      stopping := some (.disconnect rest) }.Guarded := by
  obtain ⟨sound, member, bound, disconnected, remaining⟩ := guarded
  have old : ∀ (i : Nat) (b : ServerSession),
      (w.sessions.modify index ServerSession.disconnect)[i]? = some b → b.isConnected = true →
      index ≠ i ∧ w.sessions[i]? = some b := by
    intro i b present connected
    obtain ⟨a, held, rfl⟩ := ListUpdate.getElem?_modify_some present
    split at connected
    · rw [ServerSession.disconnect_closed] at connected
      contradiction
    · rename_i other
      rw [if_neg other]
      exact ⟨other, held⟩
  refine ⟨?_, ?_, ?_, ?_, ?_⟩
  · intro b present
    obtain ⟨i, present⟩ := List.mem_iff_getElem?.mp present
    obtain ⟨a, held, rfl⟩ := ListUpdate.getElem?_modify_some present
    have before := sound a (List.mem_of_getElem? held)
    split
    · exact ServerSession.sound_disconnect before
    · exact before
  · intro b present connected
    obtain ⟨i, present⟩ := List.mem_iff_getElem?.mp present
    obtain ⟨_, held⟩ := old i b present connected
    exact member b (List.mem_of_getElem? held) connected
  · rw [List.length_modify]
    exact bound
  · intro i b early present
    rw [← Bool.not_eq_true]
    intro connected
    obtain ⟨_, held⟩ := old i b present connected
    have closed := disconnected i b early held
    rw [closed] at connected
    contradiction
  · intro l stopping i b present connected
    cases stopping
    obtain ⟨other, held⟩ := old i b present connected
    exact (List.mem_cons.mp (remaining _ next i b held connected)).resolve_left (Ne.symm other)

theorem guarded_stopDone (guarded : w.Guarded) (finished : w.stopping = some (.disconnect [])) :
    { w with
      stopping := none
      swept := w.sessions.length
      stopsDone := w.stopsDone + 1 }.Guarded := by
  refine ⟨guarded.sound, guarded.member, le_rfl, ?_, nofun⟩
  intro i c _ held
  rw [← Bool.not_eq_true]
  intro connected
  exact List.not_mem_nil (guarded.remaining [] finished i c held connected)

theorem asyncAccept_sessions (w : NetLibServer) : w.asyncAccept.sessions = w.sessions ∧
    w.asyncAccept.swept = w.swept ∧ w.asyncAccept.stopping = w.stopping ∧
    w.asyncAccept.connectionsUnderWay = w.connectionsUnderWay := by
  unfold asyncAccept
  split <;> exact ⟨rfl, rfl, rfl, rfl⟩

def loopEvent : NetLibServerEvent → Bool
  | .connectedHandler | .session _ _ | .stopLocks | .stopCloses | .stopDisconnects => false
  | _ => true

theorem sessions_of_loopEvent (loop : loopEvent e = true)
    (moved : step maxPacketSize w e = some v) :
    v.sessions = w.sessions ∧ v.swept = w.swept ∧ v.stopping = w.stopping := by
  cases e with
  | startTCP flags =>
    cases moved
    unfold startTCP
    split <;> exact ⟨rfl, rfl, rfl⟩
  | listen error =>
    simp only [step, Option.ite_none_left_eq_some, Option.some.injEq] at moved
    obtain ⟨_, rfl⟩ := moved
    cases error <;> exact ⟨rfl, rfl, rfl⟩
  | startAccept | tcpAcceptHandler | handlerAccept =>
    simp only [step, Option.ite_none_left_eq_some] at moved
    obtain ⟨_, moved⟩ := moved
    split at moved <;> cases moved <;> exact ⟨rfl, rfl, rfl⟩
  | startArm | handlerArm =>
    simp only [step, Option.ite_none_left_eq_some, Option.some.injEq] at moved
    obtain ⟨_, rfl⟩ := moved
    exact ⟨(asyncAccept_sessions _).1, (asyncAccept_sessions _).2.1,
      (asyncAccept_sessions _).2.2.1⟩
  | connectionArrives | acceptFails | tcpAcceptHandlerError =>
    simp only [step, Option.ite_none_left_eq_some, Option.some.injEq] at moved
    obtain ⟨_, rfl⟩ := moved
    exact ⟨rfl, rfl, rfl⟩
  | stop =>
    cases moved
    exact ⟨rfl, rfl, rfl⟩
  | connectedHandler | session | stopLocks | stopCloses | stopDisconnects => contradiction

theorem step_guarded (guarded : w.Guarded) (moved : step maxPacketSize w e = some v) :
    v.Guarded := by
  by_cases loop : loopEvent e = true
  · obtain ⟨sessions, swept, stopping⟩ := sessions_of_loopEvent loop moved
    exact guarded.of_same sessions swept stopping
  cases e with
  | connectedHandler =>
    simp only [step, Option.ite_none_left_eq_some, Option.some.injEq, not_or] at moved
    obtain ⟨⟨_, free⟩, rfl⟩ := moved
    exact guarded_connectedHandler guarded free
  | session index event =>
    obtain ⟨c, d, held, stepped, _, rfl⟩ := sessionStep_cases moved
    have sound := guarded.sound c (List.mem_of_getElem? held)
    exact guarded_set guarded held (ServerSession.step_sound sound stepped)
      (ServerSession.stays_step stepped)
  | stopLocks =>
    simp only [step, Option.ite_none_left_eq_some, Option.some.injEq] at moved
    obtain ⟨_, rfl⟩ := moved
    exact ⟨guarded.sound, guarded.member, guarded.bound, guarded.disconnected, nofun⟩
  | stopCloses =>
    simp only [step, Option.ite_none_right_eq_some, Option.some.injEq] at moved
    obtain ⟨_, rfl⟩ := moved
    exact guarded_stopCloses guarded
  | stopDisconnects =>
    rcases stopDisconnects_cases moved with ⟨finished, rfl⟩ | ⟨i, rest, next, rfl⟩
    · exact guarded_stopDone guarded finished
    · exact guarded_disconnects guarded next
  | _ => exact absurd rfl loop

def Ended (w : NetLibServer) : Prop := w.closed = true ∨ w.errors ≠ []

theorem Balanced.idle (balanced : w.Balanced) (failed : w.errors ≠ []) :
    w.acceptsUnderWay = 0 := by
  have loop := balanced.loop
  have some_error := List.length_pos_iff.mpr failed
  have := Bool.toNat_le w.started
  omega

theorem ended_step (ended : w.Ended) (moved : step maxPacketSize w e = some v) : v.Ended := by
  have kept : (w.closed = true → v.closed = true) ∧ (w.errors ≠ [] → v.errors ≠ []) := by
    cases e with
    | startTCP flags =>
      cases moved
      unfold startTCP
      split <;> exact ⟨id, id⟩
    | listen error =>
      simp only [step, Option.ite_none_left_eq_some, Option.some.injEq] at moved
      obtain ⟨_, rfl⟩ := moved
      cases error <;> exact ⟨id, by simp [tcpStartListen]⟩
    | startAccept | tcpAcceptHandler | handlerAccept =>
      simp only [step, Option.ite_none_left_eq_some] at moved
      obtain ⟨_, moved⟩ := moved
      split at moved <;> cases moved <;> exact ⟨id, id⟩
    | startArm | handlerArm =>
      simp only [step, Option.ite_none_left_eq_some, Option.some.injEq] at moved
      obtain ⟨_, rfl⟩ := moved
      unfold asyncAccept
      split <;> exact ⟨id, id⟩
    | connectionArrives | acceptFails | connectedHandler | stopLocks =>
      simp only [step, Option.ite_none_left_eq_some, Option.some.injEq] at moved
      obtain ⟨_, rfl⟩ := moved
      exact ⟨id, id⟩
    | tcpAcceptHandlerError =>
      simp only [step, Option.ite_none_left_eq_some, Option.some.injEq] at moved
      obtain ⟨_, rfl⟩ := moved
      exact ⟨id, by simp⟩
    | session index event =>
      obtain ⟨_, _, _, _, _, rfl⟩ := sessionStep_cases moved
      exact ⟨id, id⟩
    | stop =>
      cases moved
      exact ⟨fun _ => rfl, id⟩
    | stopCloses =>
      simp only [step, Option.ite_none_right_eq_some, Option.some.injEq] at moved
      obtain ⟨_, rfl⟩ := moved
      unfold closeAcceptor
      split <;> exact ⟨id, id⟩
    | stopDisconnects =>
      rcases stopDisconnects_cases moved with ⟨_, rfl⟩ | ⟨_, _, _, rfl⟩ <;> exact ⟨id, id⟩
  exact ended.imp kept.1 kept.2

def connections (w : NetLibServer) : Nat := w.sessions.length + w.connectionsUnderWay

theorem connections_asyncAccept (u : NetLibServer) :
    u.asyncAccept.connections = u.connections := by
  obtain ⟨sessions, _, _, underWay⟩ := asyncAccept_sessions u
  rw [connections, sessions, underWay, connections]

theorem connections_step (moved : step maxPacketSize w e = some v) :
    v.connections ≤ w.connections ∨
      (w.closed = false ∧ w.acceptedSockets ≠ 0 ∧ v.connections = w.connections + 1) := by
  cases e with
  | startTCP flags =>
    cases moved
    unfold startTCP
    split <;> exact Or.inl le_rfl
  | listen error =>
    simp only [step, Option.ite_none_left_eq_some, Option.some.injEq] at moved
    obtain ⟨_, rfl⟩ := moved
    cases error <;> exact Or.inl le_rfl
  | startAccept =>
    simp only [step, Option.ite_none_left_eq_some] at moved
    obtain ⟨_, moved⟩ := moved
    split at moved <;> cases moved <;> exact Or.inl le_rfl
  | startArm =>
    simp only [step, Option.ite_none_left_eq_some, Option.some.injEq] at moved
    obtain ⟨_, rfl⟩ := moved
    exact Or.inl (connections_asyncAccept _).le
  | connectionArrives | acceptFails | tcpAcceptHandlerError | stopLocks =>
    simp only [step, Option.ite_none_left_eq_some, Option.some.injEq] at moved
    obtain ⟨_, rfl⟩ := moved
    exact Or.inl le_rfl
  | tcpAcceptHandler =>
    simp only [step, Option.ite_none_left_eq_some] at moved
    obtain ⟨socket, moved⟩ := moved
    split at moved
    · cases moved
      exact Or.inl le_rfl
    · rename_i opened
      cases moved
      refine Or.inr ⟨Bool.not_eq_true _ ▸ opened, socket, ?_⟩
      simp only [connections, connectionsUnderWay]
      omega
  | handlerAccept =>
    simp only [step, Option.ite_none_left_eq_some] at moved
    obtain ⟨some_thread, moved⟩ := moved
    split at moved <;> cases moved <;> left <;>
      simp only [connections, connectionsUnderWay] <;> omega
  | handlerArm =>
    simp only [step, Option.ite_none_left_eq_some, Option.some.injEq] at moved
    obtain ⟨some_thread, rfl⟩ := moved
    left
    rw [connections_asyncAccept]
    simp only [connections, connectionsUnderWay]
    omega
  | connectedHandler =>
    simp only [step, Option.ite_none_left_eq_some, Option.some.injEq, not_or] at moved
    obtain ⟨⟨some_thread, _⟩, rfl⟩ := moved
    left
    simp only [connections, connectionsUnderWay, connectedHandler, List.length_append,
      List.length_singleton]
    omega
  | session index event =>
    obtain ⟨_, _, _, _, _, rfl⟩ := sessionStep_cases moved
    left
    simp only [connections, connectionsUnderWay, List.length_set]
    exact le_rfl
  | stop =>
    cases moved
    exact Or.inl le_rfl
  | stopCloses =>
    simp only [step, Option.ite_none_right_eq_some, Option.some.injEq] at moved
    obtain ⟨_, rfl⟩ := moved
    unfold closeAcceptor
    split <;> exact Or.inl le_rfl
  | stopDisconnects =>
    rcases stopDisconnects_cases moved with ⟨_, rfl⟩ | ⟨_, _, _, rfl⟩
    · exact Or.inl le_rfl
    · left
      simp only [connections, connectionsUnderWay, List.length_modify]
      exact le_rfl

theorem connections_of_ended (balanced : w.Balanced) (ended : w.Ended)
    (run : Reach (step maxPacketSize) always w v) : v.connections ≤ w.connections := by
  have kept : v.Balanced ∧ v.Ended ∧ v.connections ≤ w.connections := by
    refine reach_invariant (fun u => u.Balanced ∧ u.Ended ∧ u.connections ≤ w.connections)
      ⟨balanced, ended, le_rfl⟩ ?_ run
    rintro u e t ⟨balanced, ended, few⟩ _ moved
    refine ⟨step_balanced balanced moved, ended_step ended moved, ?_⟩
    rcases connections_step moved with fewer | ⟨opened, socket, _⟩
    · exact fewer.trans few
    · -- an open server that has ended has an error, and no accept under way
      have failed : u.errors ≠ [] := ended.resolve_left (by simp [opened])
      have idle := balanced.idle failed
      unfold acceptsUnderWay at idle
      omega
  exact kept.2.2

theorem balanced_start : ({} : NetLibServer).Balanced :=
  ⟨rfl, fun ended => absurd ended (Nat.lt_irrefl 0), Nat.le_refl 0⟩

theorem guarded_start : ({} : NetLibServer).Guarded := by
  refine ⟨?_, ?_, Nat.le_refl 0, ?_, ?_⟩
  · intro c held
    exact absurd held List.not_mem_nil
  · intro c held
    exact absurd held List.not_mem_nil
  · intro i c early
    exact absurd early (Nat.not_lt_zero i)
  · intro l stopping
    contradiction

theorem balanced_reachable (run : Reach (step maxPacketSize) always {} w) : w.Balanced :=
  reach_invariant Balanced balanced_start
    (fun _ _ _ balanced _ moved => step_balanced balanced moved) run

theorem guarded_reachable (run : Reach (step maxPacketSize) always {} w) : w.Guarded :=
  reach_invariant Guarded guarded_start
    (fun _ _ _ guarded _ moved => step_guarded guarded moved) run

/-- The accept loop and Stop over every interleaving of the io_service thread and the others. -/
theorem accept_loop_and_stop (run : Reach (step maxPacketSize) always {} w) :
    w.startResults.count true ≤ 1 ∧ w.errors.length ≤ 1 ∧ w.acceptsUnderWay ≤ 1 ∧
    (w.started = true → w.closed = false → w.errors = [] → w.acceptsUnderWay = 1) ∧
    (∀ c ∈ w.sessions, c.Sound) ∧
    (∀ (i : Nat) (c : ServerSession), i < w.swept → w.sessions[i]? = some c →
      c.isConnected = false) ∧
    (∀ v, Reach (step maxPacketSize) always w v → w.closed = true ∨ w.errors ≠ [] →
      v.sessions.length ≤ w.sessions.length + w.connectionsUnderWay) := by
  have balanced := balanced_reachable run
  have guarded := guarded_reachable run
  have ⟨loop, quiet, starts⟩ := balanced
  have once := Bool.toNat_le w.started
  refine ⟨by omega, by omega, by omega, ?_, guarded.sound, guarded.disconnected, ?_⟩
  · intro started opened fine
    have noEnd : ¬ 0 < w.quietEnds := fun ended => by simp [quiet ended] at opened
    rw [started, fine] at loop
    simp only [List.length_nil, Bool.toNat_true] at loop
    omega
  · intro v later ended
    have few := connections_of_ended balanced ended later
    unfold connections at few
    omega

/-- A handler that was past its check of m_closed makes a session after Stop has
    returned, and nobody disconnects it; no further one follows. -/
theorem session_outlives_stop : ∃ w : NetLibServer, Reach (step 0x10000) always {} w ∧
    (w.stopsDone = 1 ∧ w.sessions.any ServerSession.isConnected = true) ∧
    w.connectionsUnderWay = 0 ∧ w.acceptsUnderWay ≤ 1 ∧
    ∀ v, Reach (step 0x10000) always w v → v.sessions.length ≤ 1 + 0 := by
  obtain ⟨w, run, reached⟩ := execWithin_any (step 0x10000)
    (fun (_ : NetLibServer) (_ : NetLibServerEvent) => True) {}
    [.startTCP 0, .listen none, .startAccept, .startArm, .connectionArrives, .tcpAcceptHandler,
      .stop, .stopLocks, .stopCloses, .stopDisconnects, .handlerAccept, .connectedHandler]
    (fun w => decide ((w.stopsDone = 1 ∧ w.sessions.any ServerSession.isConnected = true) ∧
      w.connectionsUnderWay = 0 ∧ w.sessions.length = 1 ∧ w.closed = true)) (by decide +kernel)
  obtain ⟨shape, none_left, one, closed⟩ := of_decide_eq_true reached
  have run := reach_weaken (fun _ _ _ => trivial) run
  obtain ⟨_, _, underWay, _, _, _, later⟩ := accept_loop_and_stop run
  refine ⟨w, run, shape, none_left, underWay, ?_⟩
  intro v more
  have few := later v more (Or.inl closed)
  rw [one, none_left] at few
  exact few

end NetLibServer

end LaluneServer.NetLib
