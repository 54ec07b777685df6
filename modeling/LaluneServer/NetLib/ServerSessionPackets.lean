import LaluneServer.NetLib.ServerSessionRuns

/- Where the packets of a server session are, and the whole of its life cycle. -/
namespace LaluneServer.NetLib
open DeadlineTimer Transition

namespace ServerSession

def finishCall : DelegateCall → Option NetlibPacket
  | .sendFinishHandler packet => some packet
  | _ => none

def failedCall : DelegateCall → Option NetlibPacket
  | .sendFailedHandler packet => some packet
  | _ => none

def runningPackets : Option ServerRunning → List NetlibPacket
  | some (.sendFinish packet) => [packet]
  | _ => []

def executed (c : ServerSession) : Multiset NetlibPacket :=
  c.calls.filterMap finishCall + c.calls.filterMap failedCall

/-- The queue of the session, the callbacks posted, running and executed. -/
def places (c : ServerSession) : Multiset NetlibPacket :=
  sessionPackets c.sessionDetail + c.sendFinishes + runningPackets c.running + c.sendFailures +
    c.executed

structure Quiet (c : ServerSession) : Prop where
  operations : c.operations = 0
  running : c.running = none
  failures : c.sendFailures = []
  handlers : c.disconnectedHandlers = []
  posts : c.disconnectedPosts = 0

structure LifeCycle (c : ServerSession) : Prop where
  count : c.pendingOpsCount = c.operations
  reported : c.disconnections = if c.isConnected then 0 else 1
  torn_down_once : c.disconnectedPosts + c.teardowns ≤ 1
  torn_down_idle : 0 < c.disconnectedPosts → c.operations = 0 ∧ c.sessionDetail.isSome = true
  accounted : c.places = (c.accepted : Multiset NetlibPacket)
  once : c.places.Nodup
  answered : c.Quiet → c.executed = (c.accepted : Multiset NetlibPacket) ∧
    c.calls.countP disconnectedCall = 1 ∧ c.isConnected = false

section
variable {b c d : ServerSession} {s t : TcpSession}

structure OnlyMoved (c d : ServerSession) : Prop where
  accepted : d.accepted = c.accepted
  places : d.places = c.places

theorem OnlyMoved.refl (c : ServerSession) : OnlyMoved c c := ⟨rfl, rfl⟩

theorem OnlyMoved.trans (first : OnlyMoved b c) (second : OnlyMoved c d) : OnlyMoved b d :=
  ⟨second.accepted.trans first.accepted, second.places.trans first.places⟩

theorem onlyMoved_decrease (c : ServerSession) : OnlyMoved c c.decreasePendingOpsCount := by
  unfold decreasePendingOpsCount
  simp only
  split
  · exact ⟨rfl, rfl⟩
  · exact ⟨rfl, rfl⟩

theorem onlyMoved_call (c : ServerSession) (delegateCall : DelegateCall)
    (finish : finishCall delegateCall = none) (failed : failedCall delegateCall = none) :
    OnlyMoved c (c.call delegateCall) := by
  refine ⟨rfl, ?_⟩
  simp [places, executed, call, List.filterMap_append, finish, failed]

theorem onlyMoved_withSession (session : c.sessionDetail = some s)
    (queue : t.asyncSendQueue = s.asyncSendQueue) : OnlyMoved c (c.withSession t) := by
  refine ⟨rfl, ?_⟩
  unfold places sessionPackets withSession
  rw [session, Option.map_some, Option.map_some, queue]
  rfl

theorem onlyMoved_closeInto (session : c.sessionDetail = some s)
    (queue : t.asyncSendQueue = s.asyncSendQueue) (r : TcpSession) (error : NetLibError)
    (internal : Outcome) : OnlyMoved c (c.closeInto r t error internal) := by
  have kept := onlyMoved_withSession session queue
  unfold closeInto TcpSession.closeOwner
  split
  · exact kept.trans ⟨rfl, rfl⟩
  · exact kept

theorem onlyMoved_stopReading (session : c.sessionDetail = some s) (error : NetLibError)
    (internal : Outcome) : OnlyMoved c (c.applySession (s.stopReading error internal)) := by
  rw [applySession_stopReading]
  exact (onlyMoved_closeInto session (by rfl) s error internal).trans (onlyMoved_decrease _)

theorem onlyMoved_header (session : c.sessionDetail = some s) (maxPacketSize : Nat)
    (error : Outcome) (size : Nat) :
    OnlyMoved c (c.applySession (s.tcpHeaderRecv maxPacketSize error size)) := by
  rcases TcpSession.tcpHeaderRecv_cases maxPacketSize error size (s := s) with
    ⟨code, _, stops⟩ | ⟨_, continues⟩
  · rw [stops]
    exact onlyMoved_stopReading session code error
  · rw [continues]
    exact onlyMoved_withSession session (by rfl)

theorem onlyMoved_recvFinishHandler (c : ServerSession) (data : Bytes) :
    OnlyMoved c (c.recvFinishHandler data) := by
  have refreshed : OnlyMoved c c.refreshTimeoutTimer := ⟨rfl, rfl⟩
  unfold recvFinishHandler
  simp only
  split
  · split
    · exact refreshed.trans (onlyMoved_call _ _ rfl rfl)
    · exact refreshed
  · exact refreshed.trans (onlyMoved_call _ _ rfl rfl)

theorem onlyMoved_body (session : c.sessionDetail = some s) (error : Outcome) (rest : Bytes) :
    OnlyMoved c (c.applySession (s.tcpRecvAsyncFinished error rest)) := by
  rcases TcpSession.tcpRecvAsyncFinished_cases error rest (s := s) with
    ⟨code, _, stops⟩ | ⟨_, continues⟩
  · rw [stops]
    exact onlyMoved_stopReading session code error
  · rw [continues]
    exact (onlyMoved_withSession session (by rfl)).trans (onlyMoved_recvFinishHandler _ _)

theorem onlyMoved_writeDone (session : c.sessionDetail = some s) (taken : s.takeWrite = some t)
    {error : Outcome} {r : SessionResult} (done : t.tcpSendAsyncFinished error = some r) :
    OnlyMoved c (c.applySession r) := by
  have queue := TcpSession.takeWrite_asyncSendQueue taken
  rcases TcpSession.tcpSendAsyncFinished_cases done with
    rfl | ⟨_, _, front, rest, packets, ⟨empty, rfl⟩ | ⟨next, others, more, rfl⟩⟩
  · rw [applySession_writeFailed]
    exact (onlyMoved_closeInto (t := { t with isConnected := false }) session queue t
      .clientRecvError error).trans (onlyMoved_decrease _)
  · refine ⟨rfl, ?_⟩
    rw [queue] at packets
    simp only [places, applySession, List.foldl_cons, List.foldl_nil, ownerCall, withSession,
      sessionPackets, session, Option.map_some, Option.getD_some, packets, empty, executed,
      ← Multiset.coe_add, ← Multiset.cons_coe, Multiset.coe_nil]
    abel
  · refine ⟨rfl, ?_⟩
    rw [queue] at packets
    simp only [places, applySession, List.foldl_cons, List.foldl_nil, ownerCall, withSession,
      sessionPackets, session, Option.map_some, Option.getD_some, packets, executed,
      increasePendingOpsCount, ← Multiset.coe_add, ← Multiset.cons_coe, ← Multiset.singleton_add,
      Multiset.coe_nil]
    abel

structure Adds (packet : NetlibPacket) (c d : ServerSession) : Prop where
  accepted : d.accepted = c.accepted
  places : d.places = c.places + {packet}

theorem adds_sendAsync (session : c.sessionDetail = some s) (packet : NetlibPacket) :
    Adds packet c (c.applySession (s.sendAsync packet)) := by
  by_cases empty : s.asyncSendQueue = []
  · rw [TcpSession.sendAsync_first empty]
    refine ⟨rfl, ?_⟩
    simp only [places, applySession, List.foldl_cons, List.foldl_nil, ownerCall, withSession,
      sessionPackets, session, Option.map_some, Option.getD_some, empty, executed,
      increasePendingOpsCount, Multiset.coe_singleton, Multiset.coe_nil]
    abel
  · rw [TcpSession.sendAsync_behind empty]
    refine ⟨rfl, ?_⟩
    simp only [places, applySession, List.foldl_nil, withSession, sessionPackets, session,
      Option.map_some, Option.getD_some, executed, ← Multiset.coe_add, Multiset.coe_singleton]
    abel

theorem adds_postSendFailed (c : ServerSession) (packet : NetlibPacket) :
    Adds packet c (c.postSendFailed packet) := by
  refine ⟨rfl, ?_⟩
  simp only [places, postSendFailed, executed, ← Multiset.coe_add, Multiset.coe_singleton]
  abel

theorem adds_sendPacket (c : ServerSession) (packet : NetlibPacket) :
    Adds packet c (c.sendPacket packet) := by
  unfold sendPacket
  cases session : c.sessionDetail with
  | none => exact adds_postSendFailed c packet
  | some s =>
    simp only
    split
    · exact adds_sendAsync session packet
    · exact adds_postSendFailed c packet

theorem onlyMoved_close (session : c.sessionDetail = some s) (error : NetLibError) :
    OnlyMoved c (c.applySession (s.disconnect error)) := by
  rw [applySession_disconnect]
  exact onlyMoved_closeInto session (by rfl) s error none

theorem onlyMoved_disconnect (c : ServerSession) : OnlyMoved c c.disconnect := by
  unfold disconnect
  split
  · rename_i s session
    exact onlyMoved_close session .closeByLocal
  · exact .refl c

theorem onlyMoved_timeout (c : ServerSession) : OnlyMoved c c.timeoutHandler := by
  unfold timeoutHandler
  split
  · rename_i s session
    split
    · exact onlyMoved_close session .sessionTimeout
    · exact .refl c
  · exact .refl c

theorem onlyMoved_processFailedPackets (running : runningPackets c.running = [])
    (session : c.sessionDetail = some s) : OnlyMoved c (c.processFailedPackets s) := by
  unfold processFailedPackets
  cases packets : s.asyncSendQueue with
  | nil =>
    refine ⟨rfl, ?_⟩
    unfold places executed sessionPackets
    rw [session, running, Option.map_some, packets]
    rfl
  | cons front rest =>
    refine ⟨rfl, ?_⟩
    unfold places executed
    rw [session, running]
    rfl

theorem onlyMoved_delegateReturned {r : ServerRunning} (running : c.running = some r)
    (moved : c.delegateReturned r = some d) : OnlyMoved c d := by
  cases r with
  | connectedHandler =>
    obtain ⟨s, session, rfl⟩ := Option.map_eq_some_iff.mp moved
    have stopped : OnlyMoved c { c with running := none } := by
      refine ⟨rfl, ?_⟩
      unfold places
      rw [running]
      rfl
    have called := stopped.trans (onlyMoved_call _ .connectedHandler rfl rfl)
    have started := onlyMoved_withSession (s := s) (t := s.tcpReceiveAsync)
      (c := { c with running := none }.call .connectedHandler) session rfl
    exact called.trans ⟨rfl, started.places⟩
  | sendFinish packet =>
    cases moved
    refine OnlyMoved.trans ?_ (onlyMoved_decrease _)
    refine ⟨rfl, ?_⟩
    simp only [places, executed, call, running, runningPackets, List.filterMap_append,
      List.filterMap_cons, List.filterMap_nil, finishCall, failedCall, List.append_nil,
      ← Multiset.coe_add, Multiset.coe_nil, Multiset.coe_singleton]
    abel
  | processFailed =>
    obtain ⟨s, session, moved⟩ := Option.bind_eq_some_iff.mp moved
    split at moved
    · contradiction
    · rename_i front rest packets
      cases moved
      have popped : OnlyMoved c { (c.call (.sendFailedHandler front)).withSession
          { s with asyncSendQueue := rest } with running := none } := by
        refine ⟨rfl, ?_⟩
        simp only [places, executed, call, withSession, sessionPackets, session, packets, running,
          runningPackets, Option.map_some, Option.getD_some, List.filterMap_append,
          List.filterMap_cons, List.filterMap_nil, finishCall, failedCall, List.append_nil,
          ← Multiset.coe_add, ← Multiset.cons_coe, ← Multiset.singleton_add, Multiset.coe_nil]
        abel
      exact popped.trans (onlyMoved_processFailedPackets rfl rfl)

structure Accounted (c : ServerSession) : Prop where
  places : c.places = (c.accepted : Multiset NetlibPacket)
  numbered : c.accepted.map NetlibPacket.stamp = List.range c.accepted.length

theorem Accounted.moved (before : c.Accounted) (moved : OnlyMoved c d) : d.Accounted := by
  refine ⟨?_, ?_⟩
  · rw [moved.places, moved.accepted]
    exact before.places
  · rw [moved.accepted]
    exact before.numbered

theorem accounted_accept (before : c.Accounted) (data : Bytes) (copy : Bool)
    (pHint : BitVec 64) : (c.accept data copy pHint).Accounted := by
  unfold accept
  generalize shape : ({ data := data, copy := copy, pHint := pHint, stamp := c.accepted.length } :
    NetlibPacket) = packet
  have stamp : packet.stamp = c.accepted.length := by
    rw [← shape]
  have adds := adds_sendPacket { c with accepted := c.accepted ++ [packet] } packet
  have accepted : _ = c.accepted ++ [packet] := adds.accepted
  refine ⟨?_, ?_⟩
  · simp only
    rw [adds.places, accepted, ← Multiset.coe_add, ← before.places, Multiset.coe_singleton]
    rfl
  · simp only
    rw [accepted, List.map_append, before.numbered, List.length_append, List.map_singleton,
      stamp, List.length_singleton, List.range_succ]

theorem Accounted.once (accounted : c.Accounted) : c.places.Nodup := by
  rw [accounted.places, Multiset.coe_nodup]
  refine List.Nodup.of_map NetlibPacket.stamp ?_
  rw [accounted.numbered]
  exact List.nodup_range

variable {maxPacketSize : Nat} {e : ServerSessionEvent}

theorem step_accounted (before : c.Accounted) (moved : step maxPacketSize c e = some d) :
    d.Accounted := by
  cases occurs_of_step moved with
  | sendAsync data pHint => exact accounted_accept before data false pHint
  | sendCopyAsync data pHint => exact accounted_accept before _ true pHint
  | disconnect => exact before.moved (onlyMoved_disconnect c)
  | timerExpires fired => exact before.moved ⟨rfl, rfl⟩
  | recvHandlerReturned session reading =>
    exact before.moved (onlyMoved_withSession session (by rfl))
  | delegateReturned running returned =>
    exact before.moved (onlyMoved_delegateReturned running returned)
  | headerRead error size session reading =>
    exact before.moved (onlyMoved_header session maxPacketSize error size)
  | bodyRead error rest session reading whole =>
    exact before.moved (onlyMoved_body session error rest)
  | writeDone error idle session taken done =>
    exact before.moved (onlyMoved_writeDone session taken done)
  | @runSendFinish index packet idle posted =>
    refine before.moved ⟨rfl, ?_⟩
    simp only [places, coe_posted posted, idle, runningPackets, executed, ← Multiset.singleton_add,
      Multiset.coe_nil, Multiset.coe_singleton]
    abel
  | @runSendFailed index packet posted =>
    refine before.moved ⟨rfl, ?_⟩
    simp only [places, executed, call, coe_posted posted, List.filterMap_append,
      List.filterMap_cons, List.filterMap_nil, finishCall, failedCall, List.append_nil,
      ← Multiset.coe_add, ← Multiset.singleton_add, Multiset.coe_singleton]
    abel
  | @runDisconnectedHandler index error code posted =>
    have taken : Accounted { c with
        disconnectedHandlers := c.disconnectedHandlers.eraseIdx index } :=
      before.moved ⟨rfl, rfl⟩
    exact taken.moved (onlyMoved_call _ (.disconnectedHandler error code) rfl rfl)
  | runDisconnected idle posted session =>
    have begun : Accounted { c with
        disconnectedPosts := c.disconnectedPosts - 1, teardowns := c.teardowns + 1 } :=
      before.moved ⟨rfl, rfl⟩
    refine begun.moved (onlyMoved_processFailedPackets ?_ session)
    rw [idle]
    rfl
  | @runTimeout timer taken =>
    have kept : Accounted { c with keepAliveTimer := timer } := before.moved ⟨rfl, rfl⟩
    exact kept.moved (onlyMoved_timeout _)
  | runTimeoutAborted taken => exact before.moved ⟨rfl, rfl⟩

theorem reach_sound {serverFlags : BitVec 64}
    (run : Reach (step maxPacketSize) always (tcpAcceptHandler serverFlags) c) :
    c.Sound ∧ c.Accounted := by
  refine reach_invariant (fun c => c.Sound ∧ c.Accounted)
    ⟨sound_accepted serverFlags, rfl, rfl⟩ ?_ run
  rintro s e t ⟨sound, accounted⟩ _ moved
  exact ⟨step_sound sound moved, step_accounted accounted moved⟩

theorem Ended.operations (ended : c.Ended) (none_left : sessionOperations c.sessionDetail = 0)
    (running : runningOperations c.running = 0) : c.operations = 0 := by
  unfold ServerSession.operations
  rw [ended.finishes, none_left, running]
  rfl

theorem sessionOperations_some (session : c.sessionDetail = some s) :
    sessionOperations c.sessionDetail = s.operations := by
  rw [session]
  rfl

theorem isConnected_some (session : c.sessionDetail = some s) :
    c.isConnected = s.isConnected := by
  unfold isConnected
  rw [session]
  rfl

theorem Ended.lifeCycle (ended : c.Ended) (accounted : c.Accounted) (zero : c.operations = 0)
    (closed : c.isConnected = false) (torn : c.disconnectedPosts + c.teardowns = 1)
    (detail : 0 < c.disconnectedPosts → c.sessionDetail.isSome = true)
    (settled : c.Quiet → sessionPackets c.sessionDetail = []) : c.LifeCycle := by
  refine ⟨?_, ?_, torn.le, fun posted => ⟨zero, detail posted⟩, accounted.places,
    accounted.once, fun quiet => ⟨?_, ?_, closed⟩⟩
  · rw [ended.count, zero]
    rfl
  · rw [ended.reported, closed]
    rfl
  · have places := accounted.places
    unfold ServerSession.places at places
    rw [settled quiet, ended.finishes, quiet.running, quiet.failures] at places
    simpa [runningPackets] using places
  · have reported := ended.reported
    unfold disconnections at reported
    rw [quiet.handlers] at reported
    simpa using reported

theorem Ended.lifeCycle_of_session (ended : c.Ended) (accounted : c.Accounted)
    (session : c.sessionDetail = some s) (none_left : s.operations = 0)
    (closed : s.isConnected = false) (idle : runningOperations c.running = 0)
    (torn : c.disconnectedPosts + c.teardowns = 1) (busy : ¬c.Quiet) : c.LifeCycle := by
  refine ended.lifeCycle accounted ?_ ?_ torn ?_ (fun quiet => absurd quiet busy)
  · exact ended.operations ((sessionOperations_some session).trans none_left) idle
  · exact (isConnected_some session).trans closed
  · intro _
    rw [session]
    rfl

theorem Sound.lifeCycle (sound : c.Sound) (accounted : c.Accounted) : c.LifeCycle := by
  cases sound with
  | alive s stage used =>
    have count := stage.count
    refine ⟨by omega, ?_, ?_, ?_, accounted.places, accounted.once, ?_⟩
    · rw [stage.reported, isConnected_some stage.session]
    · rw [stage.posts, stage.teardowns]
      exact Nat.zero_le 1
    · intro posted
      rw [stage.posts] at posted
      exact absurd posted (Nat.lt_irrefl 0)
    · intro quiet
      rw [quiet.running, quiet.operations] at used
      simp at used
  | ending s stage =>
    refine stage.toEnded.lifeCycle_of_session accounted stage.session stage.none_left stage.closed
      (by rw [stage.running]; rfl) (by rw [stage.posts, stage.teardowns]) ?_
    intro quiet
    have posts := quiet.posts
    rw [stage.posts] at posts
    contradiction
  | failing s stage =>
    refine stage.toEnded.lifeCycle_of_session accounted stage.session stage.none_left stage.closed
      (by rw [stage.running]; rfl) (by rw [stage.posts, stage.teardowns]) ?_
    intro quiet
    have running := quiet.running
    rw [stage.running] at running
    contradiction
  | settled stage =>
    refine stage.toEnded.lifeCycle accounted ?_ ?_ ?_ ?_ ?_
    · exact stage.toEnded.operations (by rw [stage.session]; rfl) (by rw [stage.running]; rfl)
    · unfold isConnected
      rw [stage.session]
      rfl
    · rw [stage.posts, stage.teardowns]
    · intro posted
      rw [stage.posts] at posted
      exact absurd posted (Nat.lt_irrefl 0)
    · intro _
      rw [stage.session]
      rfl

/-- Every session lives according to its life cycle, whatever the order of events. -/
theorem session_life_cycle {serverFlags : BitVec 64}
    (run : Reach (step maxPacketSize) always (tcpAcceptHandler serverFlags) c) : c.LifeCycle := by
  obtain ⟨sound, accounted⟩ := reach_sound run
  exact sound.lifeCycle accounted

def timedOutSession : List ServerSessionEvent :=
  [.sendAsync (uint32Bytes 4) 1, .sendCopyAsync (uint32Bytes 4) 2, .delegateReturned,
    .writeDone none, .runSendFinish 0, .delegateReturned, .headerRead none 4, .bodyRead none [],
    .recvHandlerReturned, .timerExpires, .runTimeout, .sendAsync (uint32Bytes 4) 3,
    .runTimeoutAborted, .headerRead (some .operationAborted) 0,
    .writeDone (some .operationAborted), .runDisconnectedHandler 0, .runDisconnected,
    .delegateReturned, .runSendFailed 0]

theorem life_cycle_of_timeout : ∃ c,
    exec (step 0x80000) (tcpAcceptHandler serverListenKeepAliveEvent) timedOutSession = some c ∧
      c.calls.length = 6 ∧ c.sessionDetail = none ∧ c.LifeCycle := by
  obtain ⟨c, ran⟩ : ∃ c, exec (step 0x80000) (tcpAcceptHandler serverListenKeepAliveEvent)
      timedOutSession = some c := Option.isSome_iff_exists.mp (by decide +kernel)
  have facts : (exec (step 0x80000) (tcpAcceptHandler serverListenKeepAliveEvent)
      timedOutSession).all (fun c => c.calls.length = 6 ∧ c.sessionDetail = none) = true := by
    decide +kernel
  rw [ran] at facts
  obtain ⟨calls, detail⟩ := of_decide_eq_true facts
  exact ⟨c, ran, calls, detail, session_life_cycle (exec_reach ran)⟩

end

end ServerSession

end LaluneServer.NetLib
