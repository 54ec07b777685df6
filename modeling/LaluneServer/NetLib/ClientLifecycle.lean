import LaluneServer.NetLib.Client

/- The life cycle of a client: the phases it goes through, what each phase says
   about the fields and the outstanding operations, and which phases can follow
   each other. Two phases are dead ends: a client whose destination could not be
   resolved, and one whose wait for the next retry was cancelled. -/
namespace LaluneServer.NetLib
open DeadlineTimer

inductive Phase where
  | idle
  | connecting
  | active
  | ending
  | reporting
  | waiting
  | stuck
  | unresolved
  deriving DecidableEq, Repr

namespace Client
variable {Address : Type*}

def runningOperations : Option Running → Nat
  | some (.sendFinish _) => 1
  | _ => 0

/-- Connects, the read chain, writes, send-finish callbacks and keep-alive waits. -/
def operations (c : Client Address) : Nat :=
  c.connects.length + sessionOperations c.connectedSession + c.sendFinishes.length +
    runningOperations c.running + c.keepAliveTimer.waits

structure Detached (c : Client Address) : Prop where
  session : c.connectedSession = none
  finishes : c.sendFinishes = []
  keepAlive : c.keepAliveTimer.waits = 0
  posts : c.disconnectedPosts = 0
  running : c.running = none

structure Idle (c : Client Address) : Prop extends c.Detached where
  connects : c.connects = []
  retry : c.reconnectRetryTimer.live = 0
  count : c.pendingOpsCount = 0
  process : c.inDisconnectProcess = false
  retries : c.currentlyRetries = 0

structure Connecting (c : Client Address) : Prop extends c.Detached where
  connects : c.connects.length = 1
  retry : c.reconnectRetryTimer.live = 0
  count : c.pendingOpsCount = 1
  process : c.inDisconnectProcess = true → 0 < c.currentlyRetries
  error : c.manuallyDisconnect = true ↔ c.lastError ≠ .noError

/-- A session with operations. `missing` counts operations that have ended and were
    not yet subtracted. -/
structure Active (missing : Int) (s : TcpSession) (c : Client Address) : Prop where
  session : c.connectedSession = some s
  connects : c.connects = []
  posts : c.disconnectedPosts = 0
  running : c.running = none ∨ ∃ packet, c.running = some (.sendFinish packet)
  keepAlive : c.keepAliveTimer.waits ≤ 1
  retry : c.reconnectRetryTimer.live = 0
  count : c.pendingOpsCount = c.operations + missing
  process : c.inDisconnectProcess = false
  retries : c.currentlyRetries = 0
  queue : s.WellQueued
  linked : (s.isConnected = true ∧ s.reading.isSome ∧ c.lastError = .noError ∧
      c.manuallyDisconnect = false) ∨
    (s.isConnected = false ∧ c.lastError ≠ .noError)

structure Ended (c : Client Address) : Prop where
  connects : c.connects = []
  finishes : c.sendFinishes = []
  keepAlive : c.keepAliveTimer.waits = 0
  retry : c.reconnectRetryTimer.live = 0
  count : c.pendingOpsCount = 0
  process : c.inDisconnectProcess = true
  error : c.lastError ≠ .noError
  closed : ∀ s, c.connectedSession = some s →
    s.isConnected = false ∧ s.operations = 0 ∧ c.currentlyRetries = 0

structure Ending (c : Client Address) : Prop extends c.Ended where
  posts : c.disconnectedPosts = 1
  running : c.running = none

structure Reporting (c : Client Address) : Prop extends c.Ended where
  posts : c.disconnectedPosts = 0
  running : ∃ will, c.running = some (.disconnected will) ∧ c.currentlyRetries = 0 ∨
    c.running = some (.reconnectFailed will) ∧ c.connectedSession = none ∧
      c.currentlyRetries ≠ 0

structure Waiting (c : Client Address) : Prop extends c.Detached where
  connects : c.connects = []
  retry : c.reconnectRetryTimer.live = 1
  count : c.pendingOpsCount = 0
  process : c.inDisconnectProcess = true
  manual : c.manuallyDisconnect = false
  error : c.lastError ≠ .noError

/-- The retry that would clear m_in_disconnect_process does not come any more. -/
structure Stuck (c : Client Address) : Prop extends c.Detached where
  connects : c.connects = []
  retry : c.reconnectRetryTimer.pending = 0
  manual : 0 < c.reconnectRetryTimer.expired → c.manuallyDisconnect = true
  count : c.pendingOpsCount = 0
  process : c.inDisconnectProcess = true
  error : c.lastError ≠ .noError

structure Unresolved (c : Client Address) : Prop extends c.Detached where
  connects : c.connects = []
  retry : c.reconnectRetryTimer.live = 0
  count : c.pendingOpsCount = -1
  error : c.lastError ≠ .noError

def InPhase (c : Client Address) : Phase → Prop
  | .idle => c.Idle
  | .connecting => c.Connecting
  | .active => ∃ s, Active 0 s c ∧ 0 < c.operations
  | .ending => c.Ending
  | .reporting => c.Reporting
  | .waiting => c.Waiting
  | .stuck => c.Stuck
  | .unresolved => c.Unresolved

end Client

def Phase.attached : Phase → Bool
  | .connecting | .active | .ending | .reporting | .waiting => true
  | _ => false

def Phase.deadEnd : Phase → Bool
  | .stuck | .unresolved => true
  | _ => false

inductive Phase.Next : Phase → Phase → Prop where
  | stay (p : Phase) : Next p p
  | connect : Next .idle .connecting
  | refuse : Next .idle .unresolved
  | establish : Next .connecting .active
  | fail : Next .connecting .ending
  | close : Next .active .ending
  | report : Next .ending .reporting
  | reset : Next .reporting .idle
  | retryAtOnce : Next .reporting .connecting
  | retryLater : Next .reporting .waiting
  | retry : Next .waiting .connecting
  | abandon : Next .waiting .stuck

namespace Client
variable {Address : Type*} (net : Addresses Address)

structure Sound (p : Phase) (c : Client Address) : Prop where
  phase : c.InPhase p
  retries : 0 ≤ c.currentlyRetries
  manual : c.willReconnectIfDisconnected = true → c.manuallyDisconnect = false
  resolved : p.attached = true → (c.endpointAddress net).isSome = true

/-- The client went from a phase to one that may follow it, not into a dead end. -/
def Moves (p : Phase) (d : Client Address) : Prop :=
  ∃ q, Phase.Next p q ∧ (q.deadEnd = true → q = p) ∧ Sound net q d

section
variable {c d : Client Address} {s t : TcpSession} {missing : Int} {p : Phase}

theorem sound_initial : Sound net .idle ({} : Client Address) := by
  refine ⟨⟨⟨rfl, rfl, rfl, rfl, rfl⟩, rfl, rfl, rfl, rfl, rfl⟩, Int.le_refl 0, ?_, ?_⟩
  · intro will
    contradiction
  · intro attached
    contradiction

structure SamePhase (c d : Client Address) : Prop where
  destIp : d.destIp = c.destIp
  destIpU : d.destIpU = c.destIpU
  process : d.inDisconnectProcess = c.inDisconnectProcess
  error : d.lastError = c.lastError
  manual : d.manuallyDisconnect = c.manuallyDisconnect
  will : d.willReconnectIfDisconnected = true → c.willReconnectIfDisconnected = true
  retries : d.currentlyRetries = c.currentlyRetries
  pending : d.reconnectRetryTimer.pending = c.reconnectRetryTimer.pending
  expired : d.reconnectRetryTimer.expired = c.reconnectRetryTimer.expired
  keepAlive : d.keepAliveTimer.waits = c.keepAliveTimer.waits
  session : d.connectedSession = c.connectedSession
  count : d.pendingOpsCount = c.pendingOpsCount
  connects : d.connects = c.connects
  finishes : d.sendFinishes = c.sendFinishes
  posts : d.disconnectedPosts = c.disconnectedPosts
  running : d.running = c.running

theorem SamePhase.detached (same : SamePhase c d) (phase : c.Detached) : d.Detached :=
  ⟨same.session.trans phase.session, same.finishes.trans phase.finishes,
    same.keepAlive.trans phase.keepAlive, same.posts.trans phase.posts,
    same.running.trans phase.running⟩

theorem SamePhase.operations (same : SamePhase c d) : d.operations = c.operations := by
  unfold Client.operations
  rw [same.connects, same.session, same.finishes, same.running, same.keepAlive]

theorem SamePhase.live (same : SamePhase c d) :
    d.reconnectRetryTimer.live = c.reconnectRetryTimer.live := by
  unfold Timer.live
  rw [same.pending, same.expired]

theorem SamePhase.ended (same : SamePhase c d) (phase : c.Ended) : d.Ended := by
  refine ⟨same.connects.trans phase.connects, same.finishes.trans phase.finishes,
    same.keepAlive.trans phase.keepAlive, same.live.trans phase.retry,
    same.count.trans phase.count, same.process.trans phase.process, ?_, ?_⟩
  · rw [same.error]
    exact phase.error
  · rw [same.session, same.retries]
    exact phase.closed

theorem SamePhase.active (same : SamePhase c d) (phase : Active missing s c) :
    Active missing s d := by
  refine ⟨same.session.trans phase.session, same.connects.trans phase.connects,
    same.posts.trans phase.posts, ?_, ?_, same.live.trans phase.retry, ?_,
    same.process.trans phase.process, same.retries.trans phase.retries, phase.queue, ?_⟩
  · rw [same.running]
    exact phase.running
  · rw [same.keepAlive]
    exact phase.keepAlive
  · rw [same.count, same.operations]
    exact phase.count
  · rw [same.error, same.manual]
    exact phase.linked

theorem SamePhase.inPhase (same : SamePhase c d) (phase : c.InPhase p) : d.InPhase p := by
  cases p with
  | idle =>
    exact ⟨same.detached phase.toDetached, same.connects.trans phase.connects,
      same.live.trans phase.retry, same.count.trans phase.count,
      same.process.trans phase.process, same.retries.trans phase.retries⟩
  | connecting =>
    refine ⟨same.detached phase.toDetached, ?_, same.live.trans phase.retry,
      same.count.trans phase.count, ?_, ?_⟩
    · rw [same.connects]
      exact phase.connects
    · rw [same.process, same.retries]
      exact phase.process
    · rw [same.manual, same.error]
      exact phase.error
  | active =>
    obtain ⟨s, active, some_operation⟩ := phase
    exact ⟨s, same.active active, same.operations ▸ some_operation⟩
  | ending =>
    exact ⟨same.ended phase.toEnded, same.posts.trans phase.posts,
      same.running.trans phase.running⟩
  | reporting =>
    refine ⟨same.ended phase.toEnded, same.posts.trans phase.posts, ?_⟩
    rw [same.running, same.session, same.retries]
    exact phase.running
  | waiting =>
    refine ⟨same.detached phase.toDetached, same.connects.trans phase.connects,
      same.live.trans phase.retry, same.count.trans phase.count,
      same.process.trans phase.process, same.manual.trans phase.manual, ?_⟩
    rw [same.error]
    exact phase.error
  | stuck =>
    refine ⟨same.detached phase.toDetached, same.connects.trans phase.connects,
      same.pending.trans phase.retry, ?_, same.count.trans phase.count,
      same.process.trans phase.process, ?_⟩
    · rw [same.expired, same.manual]
      exact phase.manual
    · rw [same.error]
      exact phase.error
  | unresolved =>
    refine ⟨same.detached phase.toDetached, same.connects.trans phase.connects,
      same.live.trans phase.retry, same.count.trans phase.count, ?_⟩
    rw [same.error]
    exact phase.error

theorem SamePhase.sound (same : SamePhase c d) (sound : Sound net p c) : Sound net p d := by
  refine ⟨same.inPhase sound.phase, ?_, ?_, ?_⟩
  · rw [same.retries]
    exact sound.retries
  · rw [same.manual]
    exact sound.manual ∘ same.will
  · unfold Client.endpointAddress
    rw [same.destIp, same.destIpU]
    exact sound.resolved

theorem SamePhase.moves (same : SamePhase c d) (sound : Sound net p c) : Moves net p d :=
  ⟨p, .stay p, fun _ => rfl, same.sound net sound⟩

structure Working (missing : Int) (s : TcpSession) (c : Client Address) : Prop where
  active : Active missing s c
  manual : c.willReconnectIfDisconnected = true → c.manuallyDisconnect = false
  resolved : (c.endpointAddress net).isSome = true

variable {net}

theorem Active.operations_eq (a : Active missing s c) :
    c.operations = s.operations + c.sendFinishes.length + runningOperations c.running +
      c.keepAliveTimer.waits := by
  unfold Client.operations sessionOperations
  rw [a.session, a.connects, Option.map_some, Option.getD_some, List.length_nil, Nat.zero_add]

theorem Working.settle (w : Working net 0 s c) (some_operation : 0 < c.operations) :
    Sound net .active c :=
  ⟨⟨s, w.active, some_operation⟩, by rw [w.active.retries], w.manual, fun _ => w.resolved⟩

theorem working_of_sound (sound : Sound net .active c) : ∃ s, Working net 0 s c := by
  obtain ⟨s, active, _⟩ := sound.phase
  exact ⟨s, active, sound.manual, sound.resolved rfl⟩

/-- Subtracting an operation that has ended: if it was the last one, an error is
    recorded and disconnected() is posted. -/
theorem Working.decrease (w : Working net 1 s c) :
    Sound net .active c.decreasePendingOpsCount ∨ Sound net .ending c.decreasePendingOpsCount := by
  have count := w.active.count
  have shape := w.active.operations_eq
  by_cases last : c.operations = 0
  · have closed : s.isConnected = false ∧ c.lastError ≠ .noError := by
      rcases w.active.linked with ⟨_, reading, _⟩ | closed
      · have : s.operations ≠ 0 := by
          unfold TcpSession.operations
          rw [reading]
          simp
        omega
      · exact closed
    have idle : c.running = none := by
      rcases w.active.running with none | ⟨packet, running⟩
      · exact none
      · rw [running] at shape
        simp only [runningOperations] at shape
        omega
    have posted : c.decreasePendingOpsCount = { c with
        pendingOpsCount := c.pendingOpsCount - 1
        inDisconnectProcess := true
        disconnectedPosts := c.disconnectedPosts + 1 } := by
      unfold decreasePendingOpsCount
      exact if_pos ⟨by simp only; omega, closed.2⟩
    rw [posted]
    refine Or.inr ⟨⟨⟨w.active.connects, ?_, ?_, w.active.retry, ?_, rfl, closed.2, ?_⟩, ?_, idle⟩,
      by rw [w.active.retries], w.manual, fun _ => w.resolved⟩
    · show c.sendFinishes = []
      exact List.eq_nil_of_length_eq_zero (by omega)
    · show c.keepAliveTimer.waits = 0
      omega
    · show c.pendingOpsCount - 1 = 0
      omega
    · intro t session
      have same : t = s := Option.some.inj (session.symm.trans w.active.session)
      subst same
      exact ⟨closed.1, by omega, w.active.retries⟩
    · show c.disconnectedPosts + 1 = 1
      rw [w.active.posts]
  · have quiet : c.decreasePendingOpsCount = { c with
        pendingOpsCount := c.pendingOpsCount - 1 } := by
      unfold decreasePendingOpsCount
      refine if_neg ?_
      rintro ⟨zero, _⟩
      simp only at zero
      omega
    rw [quiet]
    obtain ⟨session, connects, posts, running, keepAlive, retry, _, process, retries, queue,
      linked⟩ := w.active
    refine Or.inl ⟨⟨s, ⟨session, connects, posts, running, keepAlive, retry, ?_, process, retries,
      queue, linked⟩, ?_⟩, by rw [retries], w.manual, fun _ => w.resolved⟩
    · show c.pendingOpsCount - 1 = (c.operations : Int) + 0
      omega
    · show 0 < c.operations
      omega

theorem Working.moves_decrease (w : Working net 1 s c) :
    Moves net .active c.decreasePendingOpsCount := by
  rcases w.decrease with active | ending
  · exact ⟨.active, .stay .active, fun _ => rfl, active⟩
  · exact ⟨.ending, .close, fun dead => by contradiction, ending⟩

theorem Working.moves (w : Working net 0 s c) (some_operation : 0 < c.operations) :
    Moves net .active c :=
  ⟨.active, .stay .active, fun _ => rfl, w.settle some_operation⟩

def closeInto (c : Client Address) (s t : TcpSession) (error : NetLibError)
    (internal : Outcome) : Client Address :=
  if s.isConnected then { c with connectedSession := some t }.handleError error internal
  else { c with connectedSession := some t }

def withSession (c : Client Address) (t : TcpSession) : Client Address :=
  { c with connectedSession := some t }

theorem applySession_disconnect (c : Client Address) (s : TcpSession) :
    c.applySession s.disconnect =
      closeInto c s { s with isConnected := false } .closeByLocal none :=
  TcpSession.closeSession_calls (s := s) withSession ownerCall c
    .closeByLocal none

theorem applySession_stopReading (c : Client Address) (error : NetLibError) (internal : Outcome) :
    c.applySession (s.stopReading error internal) =
      (closeInto c s { s with isConnected := false, reading := none } error
        internal).decreasePendingOpsCount :=
  TcpSession.stopReading_calls (s := s) withSession ownerCall c
    error internal

theorem applySession_writeFailed (c : Client Address) (internal : Outcome) :
    c.applySession ((s.closeSessionAndHandleError .clientRecvError internal).1,
        (s.closeSessionAndHandleError .clientRecvError internal).2 ++
          [.decreasePendingOpsCount]) =
      (closeInto c s { s with isConnected := false } .clientRecvError
        internal).decreasePendingOpsCount :=
  TcpSession.writeFailed_calls (s := s) withSession ownerCall c
    internal

theorem Working.closeInto (w : Working net missing s c) {r : TcpSession}
    (same : r.isConnected = s.isConnected) (closed : t.isConnected = false)
    (front : t.writes = [] ∨ t.writes = t.asyncSendQueue.take 1) (ended : Nat)
    (operations : s.operations = t.operations + ended) {error : NetLibError}
    (real : error ≠ .noError) (internal : Outcome) :
    Working net (missing + ended) t (c.closeInto r t error internal) := by
  obtain ⟨⟨session, connects, posts, running, keepAlive, retry, count, process, retries, queue,
    linked⟩, manual, resolved⟩ := w
  have shape := Active.operations_eq
    ⟨session, connects, posts, running, keepAlive, retry, count, process, retries, queue, linked⟩
  have wellQueued : t.WellQueued := ⟨front, fun connected => by rw [closed] at connected; contradiction⟩
  unfold Client.closeInto
  rcases linked with ⟨connected, _, noError, _⟩ | ⟨closedBefore, someError⟩
  · rw [if_pos (same.trans connected)]
    have recorded : { c with connectedSession := some t }.handleError error internal = { c with
        connectedSession := some t
        lastError := error
        lastInternalError := internal
        keepAliveTimer := c.keepAliveTimer.cancel } := if_pos noError
    rw [recorded]
    refine ⟨⟨rfl, connects, posts, running, ?_, retry, ?_, process, retries, wellQueued,
      Or.inr ⟨closed, real⟩⟩, manual, resolved⟩
    · show c.keepAliveTimer.cancel.waits ≤ 1
      rw [Timer.cancel_waits]
      exact keepAlive
    · show c.pendingOpsCount = _
      simp only [Client.operations, sessionOperations, Option.map_some, Option.getD_some,
        Timer.cancel_waits, connects, List.length_nil]
      omega
  · rw [if_neg (by rw [same, closedBefore]; decide)]
    refine ⟨⟨rfl, connects, posts, running, keepAlive, retry, ?_, process, retries, wellQueued,
      Or.inr ⟨closed, someError⟩⟩, manual, resolved⟩
    show c.pendingOpsCount = _
    simp only [Client.operations, sessionOperations, Option.map_some, Option.getD_some,
      connects, List.length_nil]
    omega

theorem Working.setSession (w : Working net missing s c) (t : TcpSession) (count : Int)
    (finishes : List NetlibPacket) (connected : t.isConnected = s.isConnected)
    (reading : s.reading.isSome → t.reading.isSome) (queue : t.WellQueued)
    (balance : count + (s.operations + c.sendFinishes.length) =
      c.pendingOpsCount + (t.operations + finishes.length)) :
    Working net missing t { c with
      connectedSession := some t, pendingOpsCount := count, sendFinishes := finishes } := by
  obtain ⟨active, manual, resolved⟩ := w
  have shape := active.operations_eq
  have counted := active.count
  obtain ⟨session, connects, posts, running, keepAlive, retry, _, process, retries, _,
    linked⟩ := active
  refine ⟨⟨rfl, connects, posts, running, keepAlive, retry, ?_, process, retries, queue, ?_⟩,
    manual, resolved⟩
  · show count = _
    simp only [Client.operations, sessionOperations, Option.map_some, Option.getD_some,
      connects, List.length_nil]
    omega
  · rw [connected]
    exact linked.imp (fun ⟨c, r, rest⟩ => ⟨c, reading r, rest⟩) id

theorem Working.setReading (w : Working net 0 s c) (reading : s.reading.isSome = true)
    (r : Reading) (size : Nat) : Moves net .active { c with
      connectedSession := some { s with reading := some r, receivingDataSize := size } } := by
  have same : ({ s with reading := some r, receivingDataSize := size } : TcpSession).operations =
      s.operations := by
    simp only [TcpSession.operations, reading, Option.isSome_some]
  have next : Working net 0 { s with reading := some r, receivingDataSize := size } { c with
      connectedSession := some { s with reading := some r, receivingDataSize := size } } :=
    w.setSession _ _ _ rfl (fun _ => rfl) ⟨w.active.queue.front, w.active.queue.writing⟩
      (by rw [same])
  refine next.moves ?_
  have positive : 0 < s.operations := by
    simp only [TcpSession.operations, reading, ↓reduceIte]
    omega
  rw [next.active.operations_eq, same]
  omega

theorem Working.stopReading (w : Working net 0 s c) (reading : s.reading.isSome = true)
    {error : NetLibError} (real : error ≠ .noError) (internal : Outcome) :
    Moves net .active (c.applySession (s.stopReading error internal)) := by
  rw [applySession_stopReading]
  have closed := w.closeInto (r := s) (t := { s with isConnected := false, reading := none }) rfl
    rfl w.active.queue.front 1 (by
      simp only [TcpSession.operations, reading, ↓reduceIte, Option.isSome_none]
      simp only [Bool.false_eq_true, ↓reduceIte]
      omega) real internal
  exact closed.moves_decrease

theorem moves_header (sound : Sound net .active c) (session : c.connectedSession = some s)
    (reading : s.reading = some .header) (maxPacketSize : Nat) (error : Outcome) (size : Nat) :
    Moves net .active (c.applySession (s.tcpHeaderRecv maxPacketSize error size)) := by
  obtain ⟨t, w⟩ := working_of_sound sound
  have same : t = s := Option.some.inj (w.active.session.symm.trans session)
  subst same
  rcases TcpSession.tcpHeaderRecv_cases maxPacketSize error size (s := t) with
    ⟨e, real, stops⟩ | ⟨_, continues⟩
  · rw [stops]
    exact w.stopReading (by rw [reading]; rfl) real error
  · rw [continues]
    exact w.setReading (by rw [reading]; rfl) _ _

theorem moves_body (sound : Sound net .active c) (session : c.connectedSession = some s)
    (reading : s.reading.isSome = true) (error : Outcome) (rest : Bytes) :
    Moves net .active (c.applySession (s.tcpRecvAsyncFinished error rest)) := by
  obtain ⟨t, w⟩ := working_of_sound sound
  have same : t = s := Option.some.inj (w.active.session.symm.trans session)
  subst same
  rcases TcpSession.tcpRecvAsyncFinished_cases error rest (s := t) with
    ⟨e, real, stops⟩ | ⟨_, continues⟩
  · rw [stops]
    exact w.stopReading reading real error
  · rw [continues]
    exact w.setReading reading .handling t.receivingDataSize

theorem moves_recvHandlerReturned (sound : Sound net .active c)
    (session : c.connectedSession = some s) (reading : s.reading = some .handling) :
    Moves net .active { c with connectedSession := some s.tcpReceiveAsync } := by
  obtain ⟨t, w⟩ := working_of_sound sound
  have same : t = s := Option.some.inj (w.active.session.symm.trans session)
  subst same
  exact w.setReading (by rw [reading]; rfl) .header t.receivingDataSize

theorem moves_writeDone (sound : Sound net .active c) (session : c.connectedSession = some s)
    (taken : s.takeWrite = some t) {error : Outcome} {r : SessionResult}
    (done : t.tcpSendAsyncFinished error = some r) : Moves net .active (c.applySession r) := by
  obtain ⟨k, w⟩ := working_of_sound sound
  have same : k = s := Option.some.inj (w.active.session.symm.trans session)
  subst same
  rcases w.active.queue.writeDone taken done with
    ⟨rfl, counted, rfl⟩ | ⟨u, front, queue, connected, reading, finish⟩
  · rw [applySession_writeFailed]
    exact (w.closeInto (t := { k with isConnected := false, writes := [] }) rfl rfl
      (Or.inl rfl) 1 counted (by decide) error).moves_decrease
  · have positive : ∀ {d : Client Address} {t : TcpSession}, Working net 0 t d →
        d.sendFinishes = c.sendFinishes ++ [front] → 0 < d.operations := by
      intro d t next finishes
      rw [next.active.operations_eq, finishes, List.length_append, List.length_singleton]
      omega
    have length : (c.sendFinishes ++ [front]).length = c.sendFinishes.length + 1 :=
      List.length_append
    rcases finish with ⟨rfl, fewer⟩ | ⟨rfl, same⟩
    · have next := w.setSession u c.pendingOpsCount (c.sendFinishes ++ [front]) connected
        (fun some => reading ▸ some) queue (by omega)
      exact next.moves (positive next rfl)
    · have next := w.setSession u (c.pendingOpsCount + 1) (c.sendFinishes ++ [front]) connected
        (fun some => reading ▸ some) queue (by omega)
      exact next.moves (positive next rfl)

theorem Working.sendAsync (w : Working net missing s c) (connected : s.isConnected = true)
    (packet : NetlibPacket) : ∃ t, Working net missing t (c.applySession (s.sendAsync packet)) ∧
      t.isConnected = true ∧ s.operations ≤ t.operations ∧
      t.asyncSendQueue = s.asyncSendQueue ++ [packet] ∧
      c.applySession (s.sendAsync packet) = { c with
        connectedSession := some t
        pendingOpsCount := (c.applySession (s.sendAsync packet)).pendingOpsCount } := by
  obtain ⟨t, queue, same, reading, packets, result⟩ := w.active.queue.sendAsync connected packet
  refine ⟨t, ?_, same.trans connected, by omega, packets, ?_⟩
  · rcases result with ⟨shape, more⟩ | ⟨shape, equal⟩
    · rw [shape]
      exact w.setSession t (c.pendingOpsCount + 1) c.sendFinishes same (fun some => reading ▸ some)
        queue (by omega)
    · rw [shape]
      exact w.setSession t c.pendingOpsCount c.sendFinishes same (fun some => reading ▸ some)
        queue (by omega)
  · rcases result with ⟨shape, _⟩ | ⟨shape, _⟩
    · rw [shape]
      rfl
    · rw [shape]
      rfl

end

end Client

end LaluneServer.NetLib
