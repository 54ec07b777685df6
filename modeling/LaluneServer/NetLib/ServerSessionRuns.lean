import Mathlib.Algebra.Order.Group.Multiset
import Mathlib.Tactic.Abel
import LaluneServer.NetLib.ServerSession

/- The life of a server session: from tcp_accept_handler over the time in which it has
   operations to the one run of disconnected(), with the callbacks that its packets
   and its delegate receive. -/
namespace LaluneServer.NetLib
open DeadlineTimer Transition

namespace ServerSession

def runningOperations : Option ServerRunning → Nat
  | some (.sendFinish _) => 1
  | _ => 0

def operations (c : ServerSession) : Nat :=
  sessionOperations c.sessionDetail + c.sendFinishes.length + runningOperations c.running

def isConnected (c : ServerSession) : Bool := c.sessionDetail.any TcpSession.isConnected

def disconnectedCall : DelegateCall → Bool
  | .disconnectedHandler .. => true
  | _ => false

def disconnections (c : ServerSession) : Nat :=
  c.disconnectedHandlers.length + c.calls.countP disconnectedCall

/-- A session that can get operations. `missing` counts operations that have ended and
    were not yet subtracted. -/
structure Alive (missing : Int) (s : TcpSession) (c : ServerSession) : Prop where
  session : c.sessionDetail = some s
  posts : c.disconnectedPosts = 0
  teardowns : c.teardowns = 0
  running : c.running ≠ some .processFailed
  count : c.pendingOpsCount = c.operations + missing
  queue : s.WellQueued
  reading : s.isConnected = true → s.reading.isSome ∨ c.running = some .connectedHandler
  starting : c.running = some .connectedHandler → s.reading = none
  reported : c.disconnections = if s.isConnected then 0 else 1

structure Ended (c : ServerSession) : Prop where
  finishes : c.sendFinishes = []
  count : c.pendingOpsCount = 0
  reported : c.disconnections = 1

structure Ending (s : TcpSession) (c : ServerSession) : Prop extends c.Ended where
  session : c.sessionDetail = some s
  closed : s.isConnected = false
  none_left : s.operations = 0
  posts : c.disconnectedPosts = 1
  teardowns : c.teardowns = 0
  running : c.running = none

structure Failing (s : TcpSession) (c : ServerSession) : Prop extends c.Ended where
  session : c.sessionDetail = some s
  closed : s.isConnected = false
  none_left : s.operations = 0
  packets : s.asyncSendQueue ≠ []
  posts : c.disconnectedPosts = 0
  teardowns : c.teardowns = 1
  running : c.running = some .processFailed

structure Over (c : ServerSession) : Prop extends c.Ended where
  session : c.sessionDetail = none
  posts : c.disconnectedPosts = 0
  teardowns : c.teardowns = 1
  running : c.running = none

inductive Sound (c : ServerSession) : Prop where
  | alive (s : TcpSession) (stage : Alive 0 s c)
      (used : c.running = some .connectedHandler ∨ 0 < c.operations)
  | ending (s : TcpSession) (stage : Ending s c)
  | failing (s : TcpSession) (stage : Failing s c)
  | settled (stage : Over c)

section
variable {c d : ServerSession} {s t : TcpSession} {missing : Int}

structure SameStage (c d : ServerSession) : Prop where
  session : d.sessionDetail = c.sessionDetail
  count : d.pendingOpsCount = c.pendingOpsCount
  finishes : d.sendFinishes = c.sendFinishes
  posts : d.disconnectedPosts = c.disconnectedPosts
  running : d.running = c.running
  teardowns : d.teardowns = c.teardowns
  reported : d.disconnections = c.disconnections

theorem SameStage.trans {b : ServerSession} (first : SameStage b c) (second : SameStage c d) :
    SameStage b d :=
  ⟨second.session.trans first.session, second.count.trans first.count,
    second.finishes.trans first.finishes, second.posts.trans first.posts,
    second.running.trans first.running, second.teardowns.trans first.teardowns,
    second.reported.trans first.reported⟩

theorem SameStage.operations (same : SameStage c d) : d.operations = c.operations := by
  unfold ServerSession.operations
  rw [same.session, same.finishes, same.running]

theorem SameStage.alive (same : SameStage c d) (stage : Alive missing s c) :
    Alive missing s d := by
  refine ⟨same.session.trans stage.session, same.posts.trans stage.posts,
    same.teardowns.trans stage.teardowns, ?_, ?_, stage.queue, ?_, ?_,
    same.reported.trans stage.reported⟩
  · rw [same.running]
    exact stage.running
  · rw [same.count, same.operations]
    exact stage.count
  · rw [same.running]
    exact stage.reading
  · rw [same.running]
    exact stage.starting

theorem SameStage.ended (same : SameStage c d) (stage : c.Ended) : d.Ended :=
  ⟨same.finishes.trans stage.finishes, same.count.trans stage.count,
    same.reported.trans stage.reported⟩

theorem SameStage.sound (same : SameStage c d) (sound : c.Sound) : d.Sound := by
  cases sound with
  | alive s stage used =>
    refine .alive s (same.alive stage) ?_
    rw [same.running, same.operations]
    exact used
  | ending s stage =>
    exact .ending s ⟨same.ended stage.toEnded, same.session.trans stage.session, stage.closed,
      stage.none_left, same.posts.trans stage.posts, same.teardowns.trans stage.teardowns,
      same.running.trans stage.running⟩
  | failing s stage =>
    exact .failing s ⟨same.ended stage.toEnded, same.session.trans stage.session, stage.closed,
      stage.none_left, stage.packets, same.posts.trans stage.posts,
      same.teardowns.trans stage.teardowns, same.running.trans stage.running⟩
  | settled stage =>
    exact .settled ⟨same.ended stage.toEnded, same.session.trans stage.session,
      same.posts.trans stage.posts, same.teardowns.trans stage.teardowns,
      same.running.trans stage.running⟩

theorem sound_accepted (serverFlags : BitVec 64) : (tcpAcceptHandler serverFlags).Sound :=
  .alive {} ⟨rfl, rfl, rfl, nofun, rfl, ⟨Or.inl rfl, fun _ => rfl⟩, fun _ => Or.inr rfl,
    fun _ => rfl, rfl⟩ (Or.inl rfl)

theorem Alive.operations_eq (stage : Alive missing s c) :
    c.operations = s.operations + c.sendFinishes.length + runningOperations c.running := by
  unfold ServerSession.operations sessionOperations
  rw [stage.session, Option.map_some, Option.getD_some]

theorem Alive.decrease (stage : Alive 1 s c) (started : c.running ≠ some .connectedHandler) :
    c.decreasePendingOpsCount.Sound := by
  have count := stage.count
  have shape := stage.operations_eq
  by_cases last : c.operations = 0
  · have closed : s.isConnected = false := by
      cases connected : s.isConnected
      · rfl
      · rcases stage.reading connected with reading | starting
        · have : s.operations ≠ 0 := by
            unfold TcpSession.operations
            rw [reading]
            simp
          omega
        · exact absurd starting started
    have idle : c.running = none := by
      cases running : c.running with
      | none => rfl
      | some r =>
        cases r with
        | connectedHandler => exact absurd running started
        | sendFinish packet =>
          rw [running] at shape
          simp only [runningOperations] at shape
          omega
        | processFailed => exact absurd running stage.running
    have posted : c.decreasePendingOpsCount = { c with
        pendingOpsCount := c.pendingOpsCount - 1
        disconnectedPosts := c.disconnectedPosts + 1 } := by
      unfold decreasePendingOpsCount
      exact if_pos (by simp only; omega)
    rw [posted]
    refine .ending s ⟨⟨?_, ?_, ?_⟩, stage.session, closed, by omega, ?_, stage.teardowns, idle⟩
    · show c.sendFinishes = []
      exact List.eq_nil_of_length_eq_zero (by omega)
    · show c.pendingOpsCount - 1 = 0
      omega
    · have reported := stage.reported
      rw [closed] at reported
      exact reported
    · show c.disconnectedPosts + 1 = 1
      rw [stage.posts]
  · have quiet : c.decreasePendingOpsCount = { c with
        pendingOpsCount := c.pendingOpsCount - 1 } := by
      unfold decreasePendingOpsCount
      exact if_neg (by simp only; omega)
    rw [quiet]
    refine .alive s ⟨stage.session, stage.posts, stage.teardowns, stage.running, ?_, stage.queue,
      stage.reading, stage.starting, stage.reported⟩ (Or.inr ?_)
    · show c.pendingOpsCount - 1 = (c.operations : Int) + 0
      omega
    · show 0 < c.operations
      omega

def closeInto (c : ServerSession) (s t : TcpSession) (error : NetLibError) (internal : Outcome) :
    ServerSession :=
  TcpSession.closeOwner withSession ownerCall c s t error internal

theorem applySession_disconnect (c : ServerSession) (error : NetLibError) :
    c.applySession (s.disconnect error) =
      c.closeInto s { s with isConnected := false } error none :=
  TcpSession.closeSession_calls (s := s) withSession ownerCall c error none

theorem applySession_stopReading (c : ServerSession) (error : NetLibError) (internal : Outcome) :
    c.applySession (s.stopReading error internal) =
      (c.closeInto s { s with isConnected := false, reading := none } error
        internal).decreasePendingOpsCount :=
  TcpSession.stopReading_calls (s := s) withSession ownerCall c error internal

theorem applySession_writeFailed (c : ServerSession) (internal : Outcome) :
    c.applySession ((s.closeSessionAndHandleError .clientRecvError internal).1,
        (s.closeSessionAndHandleError .clientRecvError internal).2 ++
          [.decreasePendingOpsCount]) =
      (c.closeInto s { s with isConnected := false } .clientRecvError
        internal).decreasePendingOpsCount :=
  TcpSession.writeFailed_calls (s := s) withSession ownerCall c internal

theorem Alive.closeInto (stage : Alive missing s c) {r : TcpSession}
    (same : r.isConnected = s.isConnected) (closed : t.isConnected = false)
    (front : t.writes = [] ∨ t.writes = t.asyncSendQueue.take 1) (ended : Nat)
    (operations : s.operations = t.operations + ended)
    (reading : s.reading = none → t.reading = none) (error : NetLibError) (internal : Outcome) :
    Alive (missing + ended) t (c.closeInto r t error internal) := by
  have shape := stage.operations_eq
  have reported := stage.reported
  obtain ⟨session, posts, teardowns, running, count, queue, _, starting, _⟩ := stage
  have wellQueued : t.WellQueued :=
    ⟨front, fun connected => by rw [closed] at connected; contradiction⟩
  have open_read : t.isConnected = true → t.reading.isSome ∨ c.running = some .connectedHandler :=
    fun connected => by rw [closed] at connected; contradiction
  have total : c.pendingOpsCount =
      (sessionOperations (some t) + c.sendFinishes.length + runningOperations c.running : Nat) +
        (missing + ended) := by
    simp only [sessionOperations, Option.map_some, Option.getD_some]
    omega
  unfold ServerSession.closeInto TcpSession.closeOwner
  rw [same]
  by_cases connected : s.isConnected = true
  · rw [if_pos connected]
    refine ⟨rfl, posts, teardowns, running, total, wellQueued, open_read,
      fun start => reading (starting start), ?_⟩
    rw [if_pos connected] at reported
    rw [closed, if_neg (by decide)]
    simp only [disconnections, withSession, ownerCall, handleError, List.length_append,
      List.length_singleton] at reported ⊢
    omega
  · rw [if_neg connected]
    refine ⟨rfl, posts, teardowns, running, total, wellQueued, open_read,
      fun start => reading (starting start), ?_⟩
    rw [if_neg connected] at reported
    rw [closed, if_neg (by decide)]
    exact reported

theorem Alive.setSession (stage : Alive missing s c) (t : TcpSession) (count : Int)
    (finishes : List NetlibPacket) (connected : t.isConnected = s.isConnected)
    (reading : t.reading.isSome = s.reading.isSome) (queue : t.WellQueued)
    (balance : count + (s.operations + c.sendFinishes.length) =
      c.pendingOpsCount + (t.operations + finishes.length)) :
    Alive missing t { c with
      sessionDetail := some t, pendingOpsCount := count, sendFinishes := finishes } := by
  have shape := stage.operations_eq
  obtain ⟨session, posts, teardowns, running, counted, _, before, starting, reported⟩ := stage
  refine ⟨rfl, posts, teardowns, running, ?_, queue, ?_, ?_, ?_⟩
  · show count = _
    simp only [ServerSession.operations, sessionOperations, Option.map_some, Option.getD_some]
    omega
  · rw [connected, reading]
    exact before
  · intro start
    have none := starting start
    rw [none] at reading
    exact Option.not_isSome_iff_eq_none.mp (by rw [reading]; decide)
  · rw [connected]
    exact reported

theorem Alive.sound (stage : Alive 0 s c) (some_operation : 0 < s.operations) : c.Sound := by
  refine .alive s stage (Or.inr ?_)
  rw [stage.operations_eq]
  omega

theorem Alive.started (stage : Alive missing s c) (reading : s.reading.isSome = true) :
    c.running ≠ some .connectedHandler := by
  intro start
  rw [stage.starting start] at reading
  contradiction

theorem alive_of_operations (sound : c.Sound) (session : c.sessionDetail = some s)
    (some_operation : 0 < s.operations) : Alive 0 s c := by
  cases sound with
  | alive t stage _ =>
    have same : t = s := Option.some.inj (stage.session.symm.trans session)
    exact same ▸ stage
  | ending t stage =>
    have same : t = s := Option.some.inj (stage.session.symm.trans session)
    have none := stage.none_left
    rw [same] at none
    omega
  | failing t stage =>
    have same : t = s := Option.some.inj (stage.session.symm.trans session)
    have none := stage.none_left
    rw [same] at none
    omega
  | settled stage =>
    rw [stage.session] at session
    contradiction

theorem Alive.setReading (stage : Alive 0 s c) (reading : s.reading.isSome = true) (r : Reading)
    (size : Nat) :
    (c.withSession { s with reading := some r, receivingDataSize := size }).Sound := by
  have same : ({ s with reading := some r, receivingDataSize := size } : TcpSession).operations =
      s.operations := by
    simp only [TcpSession.operations, reading, Option.isSome_some]
  have next := stage.setSession { s with reading := some r, receivingDataSize := size }
    c.pendingOpsCount c.sendFinishes rfl reading.symm
    ⟨stage.queue.front, stage.queue.writing⟩ (by rw [same])
  exact next.sound (same ▸ TcpSession.operations_of_reading reading)

theorem Alive.stopReading (stage : Alive 0 s c) (reading : s.reading.isSome = true)
    (error : NetLibError) (internal : Outcome) :
    (c.applySession (s.stopReading error internal)).Sound := by
  rw [applySession_stopReading]
  have closed := stage.closeInto (r := s) (t := { s with isConnected := false, reading := none })
    rfl rfl stage.queue.front 1 (by
      simp only [TcpSession.operations, reading, ↓reduceIte, Option.isSome_none]
      simp only [Bool.false_eq_true, ↓reduceIte]
      omega) (fun _ => rfl) error internal
  refine closed.decrease ?_
  have running : (c.closeInto s { s with isConnected := false, reading := none } error
      internal).running = c.running := by
    unfold ServerSession.closeInto TcpSession.closeOwner
    split <;> rfl
  rw [running]
  exact stage.started reading

theorem sound_header (sound : c.Sound) (session : c.sessionDetail = some s)
    (reading : s.reading = some .header) (maxPacketSize : Nat) (error : Outcome) (size : Nat) :
    (c.applySession (s.tcpHeaderRecv maxPacketSize error size)).Sound := by
  have some_read : s.reading.isSome = true := by
    rw [reading]
    rfl
  have stage := alive_of_operations sound session (TcpSession.operations_of_reading some_read)
  rcases TcpSession.tcpHeaderRecv_cases maxPacketSize error size (s := s) with
    ⟨e, _, stops⟩ | ⟨_, continues⟩
  · rw [stops]
    exact stage.stopReading some_read e error
  · rw [continues]
    exact stage.setReading some_read _ _

theorem sameStage_call (c : ServerSession) (delegateCall : DelegateCall)
    (other : ∀ error code, delegateCall ≠ .disconnectedHandler error code) :
    SameStage c (c.call delegateCall) := by
  refine ⟨rfl, rfl, rfl, rfl, rfl, rfl, ?_⟩
  cases delegateCall with
  | disconnectedHandler error code => exact absurd rfl (other error code)
  | connectedHandler | sendFinishHandler | sendFailedHandler | recvFinishHandler
  | recvKeepAliveHandler => simp [disconnections, call, disconnectedCall]

theorem sameStage_recvFinishHandler (c : ServerSession) (data : Bytes) :
    SameStage c (c.recvFinishHandler data) := by
  have refreshed : SameStage c c.refreshTimeoutTimer := ⟨rfl, rfl, rfl, rfl, rfl, rfl, rfl⟩
  unfold recvFinishHandler
  simp only
  split
  · split
    · exact refreshed.trans (sameStage_call _ _ nofun)
    · exact refreshed
  · exact refreshed.trans (sameStage_call _ _ nofun)

theorem sound_body (sound : c.Sound) (session : c.sessionDetail = some s)
    (reading : s.reading.isSome = true) (error : Outcome) (rest : Bytes) :
    (c.applySession (s.tcpRecvAsyncFinished error rest)).Sound := by
  have stage := alive_of_operations sound session (TcpSession.operations_of_reading reading)
  rcases TcpSession.tcpRecvAsyncFinished_cases error rest (s := s) with
    ⟨e, _, stops⟩ | ⟨_, continues⟩
  · rw [stops]
    exact stage.stopReading reading e error
  · rw [continues]
    exact (sameStage_recvFinishHandler _ _).sound
      (stage.setReading reading .handling s.receivingDataSize)

theorem sound_recvHandlerReturned (sound : c.Sound) (session : c.sessionDetail = some s)
    (reading : s.reading = some .handling) : (c.withSession s.tcpReceiveAsync).Sound := by
  have some_read : s.reading.isSome = true := by
    rw [reading]
    rfl
  have stage := alive_of_operations sound session (TcpSession.operations_of_reading some_read)
  exact stage.setReading some_read .header s.receivingDataSize

theorem sound_writeDone (sound : c.Sound) (idle : c.running = none)
    (session : c.sessionDetail = some s) (taken : s.takeWrite = some t) {error : Outcome}
    {r : SessionResult} (done : t.tcpSendAsyncFinished error = some r) :
    (c.applySession r).Sound := by
  have stage := alive_of_operations sound session (TcpSession.operations_of_takeWrite taken)
  rcases stage.queue.writeDone taken done with
    ⟨rfl, counted, rfl⟩ | ⟨u, front, queue, connected, reading, finish⟩
  · rw [applySession_writeFailed]
    have closed := stage.closeInto (r := { s with writes := [] })
      (t := { s with isConnected := false, writes := [] }) rfl rfl (Or.inl rfl) 1 counted id
      .clientRecvError error
    refine closed.decrease ?_
    have running : (c.closeInto { s with writes := [] } { s with isConnected := false, writes := [] }
        .clientRecvError error).running = c.running := by
      unfold ServerSession.closeInto TcpSession.closeOwner
      split <;> rfl
    rw [running, idle]
    simp
  · have positive : ∀ {d : ServerSession} {t : TcpSession}, Alive 0 t d →
        d.sendFinishes = c.sendFinishes ++ [front] → d.Sound := by
      intro d t next finishes
      refine .alive t next (Or.inr ?_)
      rw [next.operations_eq, finishes, List.length_append, List.length_singleton]
      omega
    have length : (c.sendFinishes ++ [front]).length = c.sendFinishes.length + 1 :=
      List.length_append
    have read : u.reading.isSome = s.reading.isSome := congrArg Option.isSome reading
    rcases finish with ⟨rfl, fewer⟩ | ⟨rfl, same⟩
    · have next := stage.setSession u c.pendingOpsCount (c.sendFinishes ++ [front]) connected
        read queue (by omega)
      exact positive next rfl
    · have next := stage.setSession u (c.pendingOpsCount + 1) (c.sendFinishes ++ [front]) connected
        read queue (by omega)
      exact positive next rfl

theorem Alive.sendAsync (stage : Alive missing s c) (connected : s.isConnected = true)
    (packet : NetlibPacket) : ∃ t, Alive missing t (c.applySession (s.sendAsync packet)) ∧
      s.operations ≤ t.operations ∧ t.asyncSendQueue = s.asyncSendQueue ++ [packet] ∧
      c.applySession (s.sendAsync packet) = { c with
        sessionDetail := some t
        pendingOpsCount := (c.applySession (s.sendAsync packet)).pendingOpsCount } := by
  obtain ⟨t, queue, same, reading, packets, result⟩ := stage.queue.sendAsync connected packet
  have read : t.reading.isSome = s.reading.isSome := congrArg Option.isSome reading
  refine ⟨t, ?_, by omega, packets, ?_⟩
  · rcases result with ⟨shape, more⟩ | ⟨shape, equal⟩
    · rw [shape]
      exact stage.setSession t (c.pendingOpsCount + 1) c.sendFinishes same read queue (by omega)
    · rw [shape]
      exact stage.setSession t c.pendingOpsCount c.sendFinishes same read queue (by omega)
  · rcases result with ⟨shape, _⟩ | ⟨shape, _⟩
    · rw [shape]
      rfl
    · rw [shape]
      rfl

theorem alive_of_connected (sound : c.Sound) (session : c.sessionDetail = some s)
    (connected : s.isConnected = true) : Alive 0 s c := by
  cases sound with
  | alive t stage _ =>
    have same : t = s := Option.some.inj (stage.session.symm.trans session)
    exact same ▸ stage
  | ending t stage =>
    have same : t = s := Option.some.inj (stage.session.symm.trans session)
    have closed := stage.closed
    rw [same, connected] at closed
    contradiction
  | failing t stage =>
    have same : t = s := Option.some.inj (stage.session.symm.trans session)
    have closed := stage.closed
    rw [same, connected] at closed
    contradiction
  | settled stage =>
    rw [stage.session] at session
    contradiction

theorem Sound.used (sound : c.Sound) (stage : Alive 0 s c) :
    c.running = some .connectedHandler ∨ 0 < c.operations := by
  cases sound with
  | alive t _ used => exact used
  | ending t other =>
    have posts := stage.posts
    rw [other.posts] at posts
    contradiction
  | failing t other => exact absurd other.running stage.running
  | settled other =>
    have session := stage.session
    rw [other.session] at session
    contradiction

theorem sound_sendPacket (sound : c.Sound) (packet : NetlibPacket) :
    (c.sendPacket packet).Sound := by
  have failed : SameStage c (c.postSendFailed packet) :=
    ⟨rfl, rfl, rfl, rfl, rfl, rfl, rfl⟩
  unfold sendPacket
  cases session : c.sessionDetail with
  | none =>
    exact failed.sound sound
  | some s =>
    simp only
    split
    · rename_i connected
      have stage := alive_of_connected sound session connected
      obtain ⟨t, next, more, _, shape⟩ := stage.sendAsync connected packet
      refine .alive t next ?_
      rw [next.operations_eq]
      have used := sound.used stage
      rw [stage.operations_eq] at used
      rw [shape]
      refine used.imp id fun positive => ?_
      simp only
      omega
    · exact failed.sound sound

theorem sound_accept (sound : c.Sound) (data : Bytes) (copy : Bool) (pHint : BitVec 64) :
    (c.accept data copy pHint).Sound := by
  unfold accept
  refine sound_sendPacket (SameStage.sound ?_ sound) _
  exact ⟨rfl, rfl, rfl, rfl, rfl, rfl, rfl⟩

theorem sound_close (sound : c.Sound) (session : c.sessionDetail = some s) (error : NetLibError) :
    (c.applySession (s.disconnect error)).Sound := by
  by_cases connected : s.isConnected = true
  · have stage := alive_of_connected sound session connected
    have next := stage.closeInto (r := s) (t := { s with isConnected := false }) rfl rfl
      stage.queue.front 0 rfl id error none
    rw [applySession_disconnect]
    refine .alive _ next ?_
    have used := sound.used stage
    rw [stage.operations_eq] at used
    rw [next.operations_eq]
    unfold ServerSession.closeInto TcpSession.closeOwner
    rw [if_pos connected]
    exact used
  · have same : c.applySession (s.disconnect error) = c := by
      unfold TcpSession.disconnect TcpSession.closeSessionAndHandleError
      rw [if_neg connected]
      unfold applySession withSession
      rw [← session]
      rfl
    rw [same]
    exact sound

theorem sound_disconnect (sound : c.Sound) : c.disconnect.Sound := by
  unfold disconnect
  cases session : c.sessionDetail with
  | none => exact sound
  | some s => exact sound_close sound session .closeByLocal

theorem sound_timeout (sound : c.Sound) : c.timeoutHandler.Sound := by
  unfold timeoutHandler
  cases session : c.sessionDetail with
  | none => exact sound
  | some s =>
    simp only
    split
    · exact sound_close sound session .sessionTimeout
    · exact sound

theorem sound_start (sound : c.Sound) (session : c.sessionDetail = some s)
    (running : c.running = some .connectedHandler) :
    (({ c with running := none }.call .connectedHandler).applySession s.start).Sound := by
  cases sound with
  | alive t stage _ =>
    have same : t = s := Option.some.inj (stage.session.symm.trans session)
    subst same
    have shape := stage.operations_eq
    have reading := stage.starting running
    rw [running] at shape
    have one : (({ t with reading := some .header } : TcpSession).operations : Nat) =
        t.operations + 1 := by
      simp only [TcpSession.operations, reading, Option.isSome_some, Option.isSome_none,
        ↓reduceIte, Bool.false_eq_true]
      omega
    refine Alive.sound (s := { t with reading := some .header }) ⟨rfl, stage.posts,
      stage.teardowns, fun no => by contradiction, ?_, ⟨stage.queue.front, stage.queue.writing⟩, fun _ => Or.inl rfl,
      fun no => by contradiction, ?_⟩ (by omega)
    · show c.pendingOpsCount + 1 =
        ((({ t with reading := some .header } : TcpSession).operations + c.sendFinishes.length + 0 :
          Nat) : Int) + 0
      have count := stage.count
      simp only [runningOperations] at shape
      omega
    · have reported := stage.reported
      simpa [disconnections, call, applySession, TcpSession.start, TcpSession.tcpReceiveAsync,
        withSession, ownerCall, increasePendingOpsCount, disconnectedCall] using reported
  | ending t stage =>
    rw [stage.running] at running
    contradiction
  | failing t stage =>
    rw [stage.running] at running
    contradiction
  | settled stage =>
    rw [stage.running] at running
    contradiction

theorem sound_sendFinishReturned (sound : c.Sound) {packet : NetlibPacket}
    (running : c.running = some (.sendFinish packet)) :
    ({ c with running := none }.call (.sendFinishHandler packet)).decreasePendingOpsCount.Sound := by
  cases sound with
  | alive s stage _ =>
    have shape := stage.operations_eq
    rw [running] at shape
    have ended : Alive 1 s { c with running := none } := by
      refine ⟨stage.session, stage.posts, stage.teardowns, nofun, ?_, stage.queue, ?_, nofun,
        stage.reported⟩
      · show c.pendingOpsCount =
          ((sessionOperations c.sessionDetail + c.sendFinishes.length + 0 : Nat) : Int) + 1
        have count := stage.count
        rw [stage.session]
        simp only [runningOperations] at shape
        simp only [sessionOperations, Option.map_some, Option.getD_some]
        omega
      · intro connected
        have reading := stage.reading connected
        rw [running] at reading
        simpa using reading
    have called := (sameStage_call { c with running := none }
      (.sendFinishHandler packet) nofun).alive ended
    exact called.decrease nofun
  | ending s stage =>
    rw [stage.running] at running
    contradiction
  | failing s stage => simp [stage.running] at running
  | settled stage =>
    rw [stage.running] at running
    contradiction

theorem sound_processFailedPackets (ended : c.Ended) (closed : s.isConnected = false)
    (none_left : s.operations = 0) (posts : c.disconnectedPosts = 0)
    (teardowns : c.teardowns = 1) : (c.processFailedPackets s).Sound := by
  unfold processFailedPackets
  cases packets : s.asyncSendQueue with
  | nil =>
    exact .settled ⟨⟨ended.finishes, ended.count, ended.reported⟩, rfl, posts, teardowns, rfl⟩
  | cons front rest =>
    refine .failing s ⟨⟨ended.finishes, ended.count, ended.reported⟩, rfl, closed, none_left, ?_,
      posts, teardowns, rfl⟩
    rw [packets]
    simp

theorem sound_runDisconnected (sound : c.Sound) (posted : c.disconnectedPosts ≠ 0)
    (session : c.sessionDetail = some s) :
    ({ c with
      disconnectedPosts := c.disconnectedPosts - 1
      teardowns := c.teardowns + 1 }.processFailedPackets s).Sound := by
  cases sound with
  | alive t stage _ => exact absurd stage.posts posted
  | ending t stage =>
    have same : t = s := Option.some.inj (stage.session.symm.trans session)
    subst same
    refine sound_processFailedPackets ⟨stage.finishes, stage.count, stage.reported⟩ stage.closed
      stage.none_left ?_ ?_
    · show c.disconnectedPosts - 1 = 0
      rw [stage.posts]
    · show c.teardowns + 1 = 1
      rw [stage.teardowns]
  | failing t stage => exact absurd stage.posts posted
  | settled stage => exact absurd stage.posts posted

theorem sound_failedReturned (sound : c.Sound) (running : c.running = some .processFailed)
    (session : c.sessionDetail = some s) {front : NetlibPacket} {rest : List NetlibPacket}
    (packets : s.asyncSendQueue = front :: rest) :
    ((c.call (.sendFailedHandler front)).processFailedPackets
      { s with asyncSendQueue := rest }).Sound := by
  cases sound with
  | alive t stage _ => exact absurd running stage.running
  | ending t stage =>
    rw [stage.running] at running
    contradiction
  | failing t stage =>
    have same : t = s := Option.some.inj (stage.session.symm.trans session)
    subst same
    have called := sameStage_call c (.sendFailedHandler front) nofun
    exact sound_processFailedPackets (called.ended stage.toEnded) stage.closed stage.none_left
      stage.posts stage.teardowns
  | settled stage =>
    rw [stage.running] at running
    contradiction

theorem sound_delegateReturned (sound : c.Sound) {r : ServerRunning}
    (running : c.running = some r) (moved : c.delegateReturned r = some d) : d.Sound := by
  cases r with
  | connectedHandler =>
    obtain ⟨s, session, rfl⟩ := Option.map_eq_some_iff.mp moved
    exact sound_start sound session running
  | sendFinish packet =>
    cases moved
    exact sound_sendFinishReturned sound running
  | processFailed =>
    obtain ⟨s, session, moved⟩ := Option.bind_eq_some_iff.mp moved
    split at moved
    · contradiction
    · rename_i front rest packets
      cases moved
      exact sound_failedReturned sound running session packets

theorem sound_runSendFinish (sound : c.Sound) (idle : c.running = none) {index : Nat}
    {packet : NetlibPacket} (posted : c.sendFinishes[index]? = some packet) :
    Sound { c with
      sendFinishes := c.sendFinishes.eraseIdx index
      running := some (.sendFinish packet) } := by
  obtain ⟨inside, _⟩ := List.getElem?_eq_some_iff.mp posted
  have none_posted : c.Ended → False := by
    intro ended
    rw [ended.finishes] at inside
    exact absurd inside (Nat.not_lt_zero index)
  cases sound with
  | alive s stage used =>
    have balance : (c.sendFinishes.eraseIdx index).length + 1 = c.sendFinishes.length := by
      rw [List.length_eraseIdx_of_lt inside]
      omega
    have same : ServerSession.operations { c with
        sendFinishes := c.sendFinishes.eraseIdx index
        running := some (.sendFinish packet) } = c.operations := by
      simp only [ServerSession.operations, idle, runningOperations]
      omega
    refine .alive s ⟨stage.session, stage.posts, stage.teardowns, by simp, ?_, stage.queue, ?_,
      by simp, stage.reported⟩ (Or.inr ?_)
    · rw [same]
      exact stage.count
    · intro connected
      have reading := stage.reading connected
      rw [idle] at reading
      exact reading.imp id (by simp)
    · rw [same]
      rw [idle] at used
      simpa using used
  | ending s stage => exact (none_posted stage.toEnded).elim
  | failing s stage => exact (none_posted stage.toEnded).elim
  | settled stage => exact (none_posted stage.toEnded).elim

theorem sameStage_runDisconnectedHandler {index : Nat} {error : NetLibError} {code : Outcome}
    (posted : c.disconnectedHandlers[index]? = some (error, code)) :
    SameStage c ({ c with
      disconnectedHandlers := c.disconnectedHandlers.eraseIdx index }.call
        (.disconnectedHandler error code)) := by
  obtain ⟨inside, _⟩ := List.getElem?_eq_some_iff.mp posted
  refine ⟨rfl, rfl, rfl, rfl, rfl, rfl, ?_⟩
  simp only [disconnections, call, List.countP_append, List.countP_singleton,
    List.length_eraseIdx_of_lt inside, disconnectedCall, ↓reduceIte]
  omega

variable {maxPacketSize : Nat} {e : ServerSessionEvent}

theorem step_sound (sound : c.Sound) (moved : step maxPacketSize c e = some d) : d.Sound := by
  cases occurs_of_step moved with
  | sendAsync data pHint => exact sound_accept sound data false pHint
  | sendCopyAsync data pHint => exact sound_accept sound _ true pHint
  | disconnect => exact sound_disconnect sound
  | @timerExpires timer fired =>
    have same : SameStage c { c with keepAliveTimer := timer } :=
      ⟨rfl, rfl, rfl, rfl, rfl, rfl, rfl⟩
    exact same.sound sound
  | recvHandlerReturned session reading => exact sound_recvHandlerReturned sound session reading
  | delegateReturned running returned => exact sound_delegateReturned sound running returned
  | headerRead error size session reading =>
    exact sound_header sound session reading maxPacketSize error size
  | bodyRead error rest session reading whole =>
    exact sound_body sound session (by rw [reading]; rfl) error rest
  | writeDone error idle session taken done => exact sound_writeDone sound idle session taken done
  | runSendFinish index idle posted => exact sound_runSendFinish sound idle posted
  | @runSendFailed index packet posted =>
    have taken : SameStage c { c with sendFailures := c.sendFailures.eraseIdx index } :=
      ⟨rfl, rfl, rfl, rfl, rfl, rfl, rfl⟩
    exact (taken.trans (sameStage_call _ (.sendFailedHandler packet) nofun)).sound sound
  | runDisconnectedHandler index posted =>
    exact (sameStage_runDisconnectedHandler posted).sound sound
  | runDisconnected idle posted session => exact sound_runDisconnected sound posted session
  | @runTimeout timer taken =>
    have same : SameStage c { c with keepAliveTimer := timer } :=
      ⟨rfl, rfl, rfl, rfl, rfl, rfl, rfl⟩
    exact sound_timeout (same.sound sound)
  | @runTimeoutAborted timer taken =>
    have same : SameStage c { c with keepAliveTimer := timer } :=
      ⟨rfl, rfl, rfl, rfl, rfl, rfl, rfl⟩
    exact same.sound sound

end

end ServerSession

end LaluneServer.NetLib
