import LaluneServer.NetLib.ClientCancel

/- A connection that breaks while its keep-alive timer runs. handle_error cancels the timer,
   but an expiry that is queued already still sends a keep-alive and arms the timer again. -/
namespace LaluneServer.NetLib
open DeadlineTimer Transition

def ClientEvent.breaks (maxPacketSize : Nat) : ClientEvent → Bool
  | .disconnect => true
  | .headerRead error size => error.isSome || maxPacketSize < size || size < 4
  | .bodyRead error _ => error.isSome
  | .writeDone error => error.isSome
  | _ => false

def ClientEvent.completes : ClientEvent → Bool
  | .connectDone _ | .headerRead .. | .bodyRead .. | .recvHandlerReturned | .writeDone _
  | .runSendFinish _ | .delegateReturned | .runKeepAlive | .runKeepAliveAborted => true
  | _ => false

def readingSteps : Option Reading → Nat
  | none => 0
  | some .handling => 2
  | some _ => 1

namespace Client
variable {Address : Type*} (net : Addresses Address) (maxPacketSize : Nat) (c : Client Address)

structure Broken : Prop where
  alive : c.destroyed = false
  session : c.connectedSession ≠ none
  error : c.lastError ≠ .noError
  unreported : ∀ will, c.running ≠ some (.disconnected will)

def remaining : Nat :=
  (c.connectedSession.map (fun s => readingSteps s.reading + s.writes.length)).getD 0 +
    2 * c.sendFinishes.length + runningOperations c.running + c.keepAliveTimer.waits

/-- No keep-alive is armed. While operations are outstanding one of them can end; after the
    last one DisconnectedHandler can be called at once, and then the client reconnects if it
    said so. -/
structure Noticed : Prop where
  unarmed : c.keepAliveTimer.live = 0
  counted : c.pendingOpsCount = 0 ↔ c.remaining = 0
  goesOn : c.remaining ≠ 0 → ∃ e, e.completes = true ∧ (c.step net maxPacketSize e).isSome = true
  reported : c.remaining = 0 → ∃ d, c.step net maxPacketSize .runDisconnected = some d ∧
    d.running = some (.disconnected c.willContinueReconnect) ∧
    ∃ f, d.step net maxPacketSize .delegateReturned = some f ∧ f.connectedSession = none ∧
      (c.willContinueReconnect = true → f.connects ≠ [] ∨ f.reconnectRetryTimer.pending = 1)

/-- When the connection breaks, no keep-alive is due already. -/
def breaksInTime (e : ClientEvent) : Prop :=
  c.lastError = .noError → e.breaks maxPacketSize = true → c.keepAliveTimer.expired = 0

instance (e : ClientEvent) : Decidable (c.breaksInTime maxPacketSize e) :=
  inferInstanceAs (Decidable (_ → _ → _))

end Client

namespace Client
variable {Address : Type*} {net : Addresses Address} {maxPacketSize : Nat} {c d : Client Address}
  {e : ClientEvent} {p : Phase} {s : TcpSession}

def pulse (c : Client Address) : NetLibError × Timer := (c.lastError, c.keepAliveTimer)

theorem pulse_decrease (c : Client Address) : c.decreasePendingOpsCount.pulse = c.pulse := by
  unfold decreasePendingOpsCount
  dsimp only
  split <;> rfl

theorem pulse_applySession_sendAsync (c : Client Address) (s : TcpSession)
    (packet : NetlibPacket) : (c.applySession (s.sendAsync packet)).pulse = c.pulse := by
  by_cases empty : s.asyncSendQueue = []
  · rw [TcpSession.sendAsync_first empty]
    rfl
  · rw [TcpSession.sendAsync_behind empty]
    rfl

theorem pulse_accept (c : Client Address) (data : Bytes) (copy : Bool) (pHint : BitVec 64) :
    (c.accept data copy pHint).pulse = c.pulse := by
  unfold accept sendPacket
  dsimp only
  split
  · split
    · exact pulse_applySession_sendAsync _ _ _
    · rfl
  · rfl

theorem pulse_resendFailedData (packets : List NetlibPacket) (c : Client Address) :
    (resendFailedData packets c).pulse = c.pulse := by
  induction packets generalizing c with
  | nil => rfl
  | cons packet rest ih =>
    unfold resendFailedData
    split
    · rfl
    · exact (ih _).trans (pulse_applySession_sendAsync _ _ _)

theorem lastError_connectedHandler (c : Client Address) :
    c.connectedHandler.lastError = c.lastError := by
  have marked : c.markConnected.lastError = c.lastError := by
    unfold markConnected
    dsimp only
    split <;> split <;> rfl
  unfold connectedHandler startTransfers
  split
  · exact marked
  · dsimp only
    have resent := congrArg Prod.fst
      (pulse_resendFailedData c.markConnected.failedDataQueue c.markConnected)
    split
    · exact resent.trans marked
    · exact resent.trans marked

def Unarmed (c : Client Address) : Prop := c.lastError ≠ .noError → c.keepAliveTimer.live = 0

theorem unarmed_of_waits (none : c.keepAliveTimer.waits = 0) : c.Unarmed := by
  intro _
  unfold Timer.waits at none
  unfold Timer.live
  omega

theorem unarmed_of_inactive (sound : Sound net p c) (inactive : p ≠ .active) : c.Unarmed := by
  rcases active_or_gone sound with active | detached | ended
  · exact absurd active inactive
  · exact unarmed_of_waits detached.keepAlive
  · exact unarmed_of_waits ended.keepAlive

theorem unarmed_of_fresh (fresh : d.lastError = .noError) : d.Unarmed :=
  fun error => absurd fresh error

theorem unarmed_of_closeInto {t : TcpSession} (connected : s.isConnected = true)
    (fresh : c.lastError = .noError) (none_due : c.keepAliveTimer.expired = 0)
    (error : NetLibError) (internal : Outcome) :
    (c.closeInto s t error internal).decreasePendingOpsCount.Unarmed := by
  intro _
  have kept := congrArg Prod.snd (pulse_decrease (c.closeInto s t error internal))
  have cancelled : (c.closeInto s t error internal).keepAliveTimer = c.keepAliveTimer.cancel := by
    simp only [closeInto, connected, if_true, handleError, fresh]
  exact (congrArg Timer.live (kept.trans cancelled)).trans ((Timer.cancel_live _).trans none_due)

theorem unarmed_header (connected : s.isConnected = true) (fresh : c.lastError = .noError)
    {error : Outcome} {size : Nat}
    (inTime : c.breaksInTime maxPacketSize (.headerRead error size)) :
    (c.applySession (s.tcpHeaderRecv maxPacketSize error size)).Unarmed := by
  cases breaks : (ClientEvent.headerRead error size).breaks maxPacketSize with
  | true =>
    rcases TcpSession.tcpHeaderRecv_cases maxPacketSize error size (s := s) with
      ⟨e, _, stops⟩ | ⟨_, continues⟩
    · rw [stops, applySession_stopReading]
      exact unarmed_of_closeInto connected fresh (inTime fresh breaks) e error
    · rw [continues]
      exact unarmed_of_fresh fresh
  | false =>
    simp only [ClientEvent.breaks, Bool.or_eq_false_iff, decide_eq_false_iff_not] at breaks
    have continues : s.tcpHeaderRecv maxPacketSize error size = ({ s with
        receivingDataSize := size, reading := some (.body (size - 4)) }, []) := by
      simp [TcpSession.tcpHeaderRecv, breaks.1.1, breaks.1.2, breaks.2, connected]
    rw [continues]
    exact unarmed_of_fresh fresh

theorem unarmed_body (connected : s.isConnected = true) (fresh : c.lastError = .noError)
    {error : Outcome} {rest : Bytes} (inTime : c.breaksInTime maxPacketSize (.bodyRead error rest)) :
    (c.applySession (s.tcpRecvAsyncFinished error rest)).Unarmed := by
  cases breaks : (ClientEvent.bodyRead error rest).breaks maxPacketSize with
  | true =>
    rcases TcpSession.tcpRecvAsyncFinished_cases error rest (s := s) with
      ⟨e, _, stops⟩ | ⟨_, continues⟩
    · rw [stops, applySession_stopReading]
      exact unarmed_of_closeInto connected fresh (inTime fresh breaks) e error
    · rw [continues]
      exact unarmed_of_fresh fresh
  | false =>
    simp only [ClientEvent.breaks] at breaks
    have continues : s.tcpRecvAsyncFinished error rest = ({ s with reading := some .handling },
        [.recvFinishHandler (uint32Bytes s.receivingDataSize ++ rest)]) := by
      simp [TcpSession.tcpRecvAsyncFinished, breaks, connected]
    rw [continues]
    exact unarmed_of_fresh fresh

theorem unarmed_write (connected : s.isConnected = true) (fresh : c.lastError = .noError)
    {error : Outcome} (inTime : c.breaksInTime maxPacketSize (.writeDone error))
    {r : SessionResult} (done : s.tcpSendAsyncFinished error = some r) :
    (c.applySession r).Unarmed := by
  cases error with
  | some code =>
    rcases TcpSession.tcpSendAsyncFinished_cases done with rfl | ⟨fine, _⟩
    · rw [applySession_writeFailed]
      exact unarmed_of_closeInto connected fresh (inTime fresh rfl) _ _
    · contradiction
  | none =>
    unfold TcpSession.tcpSendAsyncFinished at done
    rw [if_neg (by simp [connected])] at done
    split at done
    · contradiction
    · dsimp only at done
      split at done
      · rename_i front rest _ some_packet
        cases rest with
        | nil => simp at some_packet
        | cons next others =>
          cases done
          exact unarmed_of_fresh fresh
      · cases done
        exact unarmed_of_fresh fresh

theorem unarmed_of_fresh_step (sound : Sound net .active c) (fresh : c.lastError = .noError)
    (inTime : c.breaksInTime maxPacketSize e) (moved : step net maxPacketSize c e = some d) :
    d.Unarmed := by
  obtain ⟨s, active, _⟩ := sound.phase
  have connected : s.isConnected = true := by
    rcases active.linked with ⟨connected, _⟩ | ⟨_, error⟩
    · exact connected
    · exact absurd fresh error
  have is_session {t : TcpSession} (session : c.connectedSession = some t) : t = s :=
    Option.some.inj (session.symm.trans active.session)
  cases occurs_of_step moved with
  | connectAsync destination port flags =>
    rw [startConnect_busy sound (by decide)]
    exact unarmed_of_fresh fresh
  | disconnect =>
    rw [disconnect_connected active.process active.session connected]
    intro _
    have cancelled : (c.closeInto s { s with isConnected := false } .closeByLocal
        none).keepAliveTimer = c.keepAliveTimer.cancel := by
      simp only [closeInto, connected, if_true, handleError, fresh]
    exact (congrArg Timer.live cancelled).trans
      ((Timer.cancel_live _).trans (inTime fresh rfl))
  | sendAsync data pHint =>
    exact unarmed_of_fresh ((congrArg Prod.fst (pulse_accept c data false pHint)).trans fresh)
  | sendCopyAsync data pHint =>
    exact unarmed_of_fresh ((congrArg Prod.fst (pulse_accept c _ true pHint)).trans fresh)
  | delegateReturned running =>
    rcases phase_of_running sound running with ⟨_, packet, rfl⟩ | ⟨reporting, _⟩
    · exact unarmed_of_fresh
        ((congrArg Prod.fst (pulse_decrease { c with running := none })).trans fresh)
    · contradiction
  | connectDone error pending =>
    rw [active.connects] at pending
    contradiction
  | headerRead error size session reading =>
    obtain rfl := is_session session
    exact unarmed_header connected fresh inTime
  | bodyRead error rest session reading whole =>
    obtain rfl := is_session session
    exact unarmed_body connected fresh inTime
  | @writeDone error t u r session taken done =>
    obtain rfl := is_session session
    obtain ⟨rfl, _⟩ := TcpSession.takeWrite_spec active.queue taken
    exact unarmed_write (s := { t with writes := [] }) connected fresh inTime done
  | @runKeepAlive timer taken =>
    exact unarmed_of_fresh
      ((congrArg Prod.fst (pulse_accept { c with keepAliveTimer := timer } _ true 0)).trans fresh)
  | @runKeepAliveAborted timer taken =>
    exact unarmed_of_fresh
      ((congrArg Prod.fst (pulse_decrease { c with keepAliveTimer := timer })).trans fresh)
  | runRetry taken =>
    have due := (Timer.takeExpired_spec taken).2.1
    have retry := active.retry
    omega
  | _ => exact unarmed_of_fresh fresh

theorem session_decrease (c : Client Address) :
    c.decreasePendingOpsCount.connectedSession = c.connectedSession := by
  unfold decreasePendingOpsCount
  dsimp only
  split <;> rfl

theorem session_handleError (c : Client Address) (error : NetLibError) (internal : Outcome) :
    (c.handleError error internal).connectedSession = c.connectedSession := by
  unfold handleError
  split <;> rfl

theorem fresh_of_connectDone (sound : Sound net .connecting c)
    {others : List (Address × BitVec 16)} {error : Outcome}
    (session : ({ c with connects := others }.tcpConnectedHandler error).connectedSession ≠ none) :
    ({ c with connects := others }.tcpConnectedHandler error).lastError = .noError := by
  have before := sound.phase.session
  revert session
  unfold tcpConnectedHandler
  rw [session_decrease]
  intro session
  refine (congrArg Prod.fst (pulse_decrease _)).trans ?_
  change Client.lastError _ = _
  cases error with
  | some code =>
    have same := session_handleError { c with connects := others } .clientConnectError (some code)
    exact absurd (same.trans before) session
  | none =>
    simp only [before] at session ⊢
    split at session
    · exact absurd rfl session
    · rename_i wanted
      rw [if_neg wanted, lastError_connectedHandler]
      by_contra error
      exact wanted (sound.phase.error.mpr error)

theorem fresh_of_establish (sound : Sound net .connecting c) (established : Sound net .active d)
    (moved : step net maxPacketSize c e = some d) : d.lastError = .noError := by
  obtain ⟨⟨_, finishes, _, _, idle⟩, one, retry, _, _, _⟩ := sound.phase
  obtain ⟨s, active, _⟩ := established.phase
  have ended : d.connects ≠ c.connects := by
    intro same
    rw [← same, active.connects] at one
    contradiction
  cases still : e.movesCourse with
  | false => exact absurd (congrArg Course.connects (step_sameCourse still moved)) ended
  | true =>
    cases occurs_of_step moved with
    | connectAsync destination port flags =>
      rw [startConnect_busy sound (by decide)] at ended
      exact absurd rfl ended
    | disconnect => exact absurd (course_disconnect c).2 ended
    | disableReconnect => exact absurd rfl ended
    | enableReconnect retries => exact absurd rfl ended
    | delegateReturned running =>
      rw [idle] at running
      contradiction
    | retryExpires fired => exact absurd rfl ended
    | connectDone error pending =>
      refine fresh_of_connectDone sound ?_
      rw [active.session]
      exact Option.some_ne_none s
    | runRetry taken =>
      have due := (Timer.takeExpired_spec taken).2.1
      omega
    | runRetryAborted taken => exact absurd rfl ended
    | _ => contradiction

structure Closed (s : TcpSession) (c : Client Address) : Prop where
  session : c.connectedSession = some s
  closed : s.isConnected = false
  error : c.lastError ≠ .noError
  connects : c.connects = []
  retry : c.reconnectRetryTimer.live = 0
  running : c.running = none ∨ ∃ packet, c.running = some (.sendFinish packet)

theorem closed_of_error (sound : Sound net p c) (working : p = .active ∨ p = .ending)
    (session : c.connectedSession ≠ none) (error : c.lastError ≠ .noError) :
    ∃ s, c.Closed s := by
  rcases working with rfl | rfl
  · obtain ⟨s, active, _⟩ := sound.phase
    rcases active.linked with ⟨_, _, fresh, _⟩ | ⟨closed, _⟩
    · exact absurd fresh error
    · exact ⟨s, active.session, closed, error, active.connects, active.retry, active.running⟩
  · obtain ⟨⟨connects, _, _, retry, _, _, _, closed⟩, _, idle⟩ := sound.phase
    obtain ⟨s, session⟩ := Option.ne_none_iff_exists'.mp session
    exact ⟨s, session, (closed s session).1, error, connects, retry, .inl idle⟩

theorem working_of_broken (sound : Sound net p c) (broken : c.Broken) :
    p = .active ∨ p = .ending := by
  cases p with
  | active => exact .inl rfl
  | ending => exact .inr rfl
  | reporting =>
    obtain ⟨will, ⟨running, _⟩ | ⟨_, none, _⟩⟩ := sound.phase.running
    · exact absurd running (broken.unreported will)
    · exact absurd none broken.session
  | idle => exact absurd sound.phase.session broken.session
  | connecting => exact absurd sound.phase.session broken.session
  | waiting => exact absurd sound.phase.session broken.session
  | stuck => exact absurd sound.phase.session broken.session
  | unresolved => exact absurd sound.phase.session broken.session

structure Drains (n : Nat) (c d : Client Address) : Prop where
  alive : d.destroyed = c.destroyed
  session : d.connectedSession ≠ none
  error : d.lastError = c.lastError
  live : d.keepAliveTimer.live = c.keepAliveTimer.live
  unreported : ∀ will, d.running ≠ some (.disconnected will)
  remaining : d.remaining + n ≤ c.remaining

theorem Drains.decrease {n : Nat} (drains : Drains n c d) :
    Drains n c d.decreasePendingOpsCount := by
  unfold decreasePendingOpsCount
  dsimp only
  split
  · exact ⟨drains.alive, drains.session, drains.error, drains.live, drains.unreported,
      drains.remaining⟩
  · exact ⟨drains.alive, drains.session, drains.error, drains.live, drains.unreported,
      drains.remaining⟩

theorem Closed.unreported (closed : c.Closed s) (will : Bool) :
    c.running ≠ some (.disconnected will) := by
  rcases closed.running with idle | ⟨packet, finish⟩
  · simp [idle]
  · simp [finish]

theorem Closed.remaining_eq (closed : c.Closed s) : c.remaining =
    readingSteps s.reading + s.writes.length + 2 * c.sendFinishes.length +
      runningOperations c.running + c.keepAliveTimer.waits := by
  unfold remaining
  rw [closed.session]
  rfl

theorem Closed.drains_session (closed : c.Closed s) {t : TcpSession}
    (fewer : readingSteps t.reading + t.writes.length + 1 ≤
      readingSteps s.reading + s.writes.length) :
    Drains 1 c { c with connectedSession := some t } := by
  refine ⟨rfl, Option.some_ne_none t, rfl, rfl, closed.unreported, ?_⟩
  rw [closed.remaining_eq]
  change readingSteps t.reading + t.writes.length + 2 * c.sendFinishes.length +
    runningOperations c.running + c.keepAliveTimer.waits + 1 ≤ _
  omega

theorem closeInto_closed (closed : s.isConnected = false) (t : TcpSession) (error : NetLibError)
    (internal : Outcome) :
    c.closeInto s t error internal = { c with connectedSession := some t } := by
  unfold closeInto
  rw [if_neg (by rw [closed]; decide)]

theorem Closed.drains_stopReading (closed : c.Closed s) (reading : s.reading.isSome = true)
    (error : NetLibError) (internal : Outcome) :
    Drains 1 c (c.applySession (s.stopReading error internal)) := by
  rw [applySession_stopReading, closeInto_closed closed.closed]
  refine (closed.drains_session ?_).decrease
  change 0 + s.writes.length + 1 ≤ _
  have some_step : 0 < readingSteps s.reading := by
    obtain ⟨r, reading⟩ := Option.isSome_iff_exists.mp reading
    rw [reading]
    cases r with
    | header => exact Nat.one_pos
    | body size => exact Nat.one_pos
    | handling => exact Nat.two_pos
  omega

theorem Closed.drains_header (closed : c.Closed s) (reading : s.reading.isSome = true)
    (maxPacketSize : Nat) (error : Outcome) (size : Nat) :
    Drains 1 c (c.applySession (s.tcpHeaderRecv maxPacketSize error size)) := by
  rcases TcpSession.tcpHeaderRecv_cases maxPacketSize error size (s := s) with
    ⟨error, _, stops⟩ | ⟨connected, _⟩
  · rw [stops]
    exact closed.drains_stopReading reading _ _
  · rw [closed.closed] at connected
    contradiction

theorem Closed.drains_body (closed : c.Closed s) (reading : s.reading.isSome = true)
    (error : Outcome) (rest : Bytes) :
    Drains 1 c (c.applySession (s.tcpRecvAsyncFinished error rest)) := by
  rcases TcpSession.tcpRecvAsyncFinished_cases error rest (s := s) with
    ⟨error, _, stops⟩ | ⟨connected, _⟩
  · rw [stops]
    exact closed.drains_stopReading reading _ _
  · rw [closed.closed] at connected
    contradiction

theorem Closed.drains_write (closed : c.Closed s) {t : TcpSession} {error : Outcome}
    {r : SessionResult} (taken : s.takeWrite = some t)
    (done : t.tcpSendAsyncFinished error = some r) : Drains 1 c (c.applySession r) := by
  obtain ⟨first, others, writes, rfl⟩ := TcpSession.takeWrite_cases taken
  rcases TcpSession.tcpSendAsyncFinished_cases done with rfl | ⟨_, connected, _⟩
  · rw [applySession_writeFailed, closeInto_closed (by exact closed.closed)]
    refine (closed.drains_session ?_).decrease
    rw [writes]
    exact Nat.le_refl _
  · rw [closed.closed] at connected
    contradiction

theorem Closed.disconnect_eq (closed : c.Closed s) : c.disconnect = { c with
    manuallyDisconnect := true
    willReconnectIfDisconnected := false
    reconnectRetryTimer := c.reconnectRetryTimer.cancel } := by
  unfold disconnect cancelConnect
  simp only [closed.session, closed.closed, Bool.false_eq_true, if_false, handleError,
    closed.error, ite_self]

theorem Closed.drains (closed : c.Closed s) {n : Nat} (alive : d.destroyed = c.destroyed)
    (session : d.connectedSession = c.connectedSession) (error : d.lastError = c.lastError)
    (live : d.keepAliveTimer.live = c.keepAliveTimer.live)
    (unreported : ∀ will, d.running ≠ some (.disconnected will))
    (fewer : 2 * d.sendFinishes.length + runningOperations d.running + d.keepAliveTimer.waits + n ≤
      2 * c.sendFinishes.length + runningOperations c.running + c.keepAliveTimer.waits) :
    Drains n c d := by
  refine ⟨alive, ?_, error, live, unreported, ?_⟩
  · rw [session, closed.session]
    exact Option.some_ne_none s
  · unfold remaining
    rw [session]
    omega

theorem Closed.accept_eq (closed : c.Closed s) (data : Bytes) (copy : Bool) (pHint : BitVec 64) :
    ∃ queue accepted, c.accept data copy pHint =
      { c with failedDataQueue := queue, accepted := accepted } := by
  unfold accept sendPacket
  simp only [closed.session, closed.closed, Bool.false_eq_true, if_false, sendFailedHandler]
  exact ⟨_, _, rfl⟩

theorem drains_step (sound : Sound net p c) (working : p = .active ∨ p = .ending)
    (closed : c.Closed s) (unarmed : c.keepAliveTimer.live = 0) (other : e ≠ .runDisconnected)
    (moved : step net maxPacketSize c e = some d) :
    Drains (if e.completes then 1 else 0) c d := by
  have idle : Drains 0 c c :=
    closed.drains rfl rfl rfl rfl closed.unreported (Nat.le_refl _)
  have is_session {t : TcpSession} (session : c.connectedSession = some t) : t = s :=
    Option.some.inj (session.symm.trans closed.session)
  cases occurs_of_step moved with
  | connectAsync destination port flags =>
    have busy : p ≠ .idle := by
      rcases working with rfl | rfl <;> decide
    rw [startConnect_busy sound busy]
    exact idle
  | disconnect =>
    rw [closed.disconnect_eq]
    exact closed.drains rfl rfl rfl rfl closed.unreported (Nat.le_refl _)
  | sendAsync data pHint =>
    obtain ⟨queue, accepted, shape⟩ := closed.accept_eq data false pHint
    unfold sendAsync
    rw [shape]
    exact closed.drains rfl rfl rfl rfl closed.unreported (Nat.le_refl _)
  | sendCopyAsync data pHint =>
    obtain ⟨queue, accepted, shape⟩ := closed.accept_eq (data.take (readUint32 data)) true pHint
    unfold sendCopyAsync
    rw [shape]
    exact closed.drains rfl rfl rfl rfl closed.unreported (Nat.le_refl _)
  | @recvHandlerReturned t session reading =>
    obtain rfl := is_session session
    refine closed.drains_session ?_
    rw [reading]
    change 1 + t.writes.length + 1 ≤ 2 + t.writes.length
    omega
  | setWillReconnect will running written =>
    rcases closed.running with none | ⟨packet, finish⟩
    · rw [none] at running
      contradiction
    · obtain rfl := Option.some.inj (running.symm.trans finish)
      contradiction
  | delegateReturned running =>
    rcases closed.running with none | ⟨packet, finish⟩
    · rw [none] at running
      contradiction
    · obtain rfl := Option.some.inj (running.symm.trans finish)
      refine Drains.decrease
        (closed.drains rfl rfl rfl rfl (fun _ => (Option.some_ne_none _).symm) ?_)
      rw [running]
      change 2 * c.sendFinishes.length + 0 + c.keepAliveTimer.waits + 1 ≤
        2 * c.sendFinishes.length + 1 + c.keepAliveTimer.waits
      omega
  | keepAliveExpires fired =>
    have pending := (Timer.expire_spec fired).2.2.2
    unfold Timer.live at unarmed
    omega
  | retryExpires fired =>
    have pending := (Timer.expire_spec fired).2.2.2
    have retry := closed.retry
    unfold Timer.live at retry
    omega
  | connectDone error pending =>
    rw [closed.connects] at pending
    contradiction
  | headerRead error size session reading =>
    obtain rfl := is_session session
    exact closed.drains_header (by rw [reading]; rfl) maxPacketSize error size
  | bodyRead error rest session reading whole =>
    obtain rfl := is_session session
    exact closed.drains_body (by rw [reading]; rfl) error rest
  | writeDone error session taken done =>
    obtain rfl := is_session session
    exact closed.drains_write taken done
  | runSendFinish index free posted =>
    obtain ⟨inside, _⟩ := List.getElem?_eq_some_iff.mp posted
    refine closed.drains rfl rfl rfl rfl (fun _ => by simp) ?_
    change 2 * (c.sendFinishes.eraseIdx index).length + 1 + c.keepAliveTimer.waits + 1 ≤ _
    rw [List.length_eraseIdx_of_lt inside]
    omega
  | runDisconnected posted => exact absurd rfl other
  | runKeepAlive taken =>
    have due := (Timer.takeExpired_spec taken).2.1
    omega
  | @runKeepAliveAborted timer taken =>
    obtain ⟨waits, live, _⟩ := Timer.takeAborted_spec taken
    refine Drains.decrease (closed.drains rfl rfl rfl live closed.unreported ?_)
    change 2 * c.sendFinishes.length + runningOperations c.running + timer.waits + 1 ≤ _
    omega
  | runRetry taken =>
    have due := (Timer.takeExpired_spec taken).2.1
    have retry := closed.retry
    omega
  | destroy unused =>
    have gone := unused.2.1
    rw [closed.session] at gone
    contradiction
  | _ => exact closed.drains rfl rfl rfl rfl closed.unreported (Nat.le_refl _)

theorem unarmed_step (sound : Sound net p c) (unarmed : c.Unarmed)
    (inTime : c.breaksInTime maxPacketSize e) (moved : step net maxPacketSize c e = some d) :
    d.Unarmed := by
  obtain ⟨q, next, follows, _⟩ := step_follows sound moved
  by_cases active : q = .active
  · subst active
    cases next with
    | stay =>
      by_cases fresh : c.lastError = .noError
      · exact unarmed_of_fresh_step sound fresh inTime moved
      · obtain ⟨t, working, _⟩ := sound.phase
        obtain ⟨s, closed⟩ := closed_of_error sound (.inl rfl)
          (by rw [working.session]; exact Option.some_ne_none t) fresh
        have other : e ≠ .runDisconnected := by
          rintro rfl
          cases occurs_of_step moved with
          | runDisconnected posted => exact posted working.posts
        have drains := drains_step sound (.inl rfl) closed (unarmed fresh) other moved
        exact fun _ => drains.live.trans (unarmed fresh)
    | establish => exact unarmed_of_fresh (fresh_of_establish sound follows moved)
  · exact unarmed_of_inactive follows active

theorem remaining_of_active (sound : Sound net .active c) : 0 < c.remaining := by
  obtain ⟨s, active, some_operation⟩ := sound.phase
  rw [active.operations_eq] at some_operation
  unfold remaining
  rw [active.session]
  change 0 < readingSteps s.reading + s.writes.length + _ + _ + _
  unfold TcpSession.operations at some_operation
  cases reading : s.reading with
  | none =>
    simp only [reading, Option.isSome_none, Bool.false_eq_true, if_false] at some_operation
    omega
  | some r =>
    have some_step : 0 < readingSteps (some r) := by
      cases r <;> simp [readingSteps]
    omega

theorem remaining_of_ending (sound : Sound net .ending c) : c.remaining = 0 := by
  obtain ⟨⟨_, finishes, keepAlive, _, _, _, _, closed⟩, _, idle⟩ := sound.phase
  unfold remaining
  rw [finishes, keepAlive, idle]
  cases session : c.connectedSession with
  | none => rfl
  | some s =>
    obtain ⟨_, operations, _⟩ := closed s session
    unfold TcpSession.operations at operations
    cases reading : s.reading with
    | none =>
      simp only [reading, Option.isSome_none, Bool.false_eq_true, if_false] at operations
      have none : s.writes = [] := List.eq_nil_of_length_eq_zero (by omega)
      simp [readingSteps, reading, none, runningOperations]
    | some r =>
      simp only [reading, Option.isSome_some, if_true] at operations
      omega

/-- While operations of a broken connection are outstanding, one of them can end. -/
theorem Closed.goesOn (closed : c.Closed s) (alive : c.destroyed = false)
    (unarmed : c.keepAliveTimer.live = 0) (left : c.remaining ≠ 0) :
    ∃ e, e.completes = true ∧ (c.step net maxPacketSize e).isSome = true := by
  rcases closed.running with idle | ⟨packet, finish⟩
  · cases reading : s.reading with
    | some r =>
      cases r with
      | handling =>
        exact ⟨.recvHandlerReturned, rfl, by simp [step, alive, closed.session, reading]⟩
      | header =>
        exact ⟨.headerRead none 0, rfl, by
          simp [step, alive, busy, runHandler, idle, closed.session, reading]⟩
      | body size =>
        exact ⟨.bodyRead (some .eof) [], rfl, by
          simp [step, alive, busy, runHandler, idle, closed.session, reading]⟩
    | none =>
      have free : c.busy = false := by
        simp [busy, idle, closed.session, reading]
      rw [closed.remaining_eq, idle, reading] at left
      cases writes : s.writes with
      | cons first others =>
        exact ⟨.writeDone none, rfl, by
          simp [step, alive, free, runHandler, closed.session, TcpSession.takeWrite, writes,
            TcpSession.tcpSendAsyncFinished, closed.closed]⟩
      | nil =>
        cases finishes : c.sendFinishes with
        | cons packet others =>
          exact ⟨.runSendFinish 0, rfl, by simp [step, alive, free, runHandler, finishes]⟩
        | nil =>
          have aborted : c.keepAliveTimer.aborted ≠ 0 := by
            simp only [writes, finishes, readingSteps, runningOperations, List.length_nil,
              Timer.waits] at left
            unfold Timer.live at unarmed
            omega
          exact ⟨.runKeepAliveAborted, rfl, by
            simp [step, alive, free, runHandler, Timer.takeAborted, aborted]⟩
  · exact ⟨.delegateReturned, rfl, by simp [step, alive, finish]⟩

theorem connectAsync_resolved (manual : c.manuallyDisconnect = false)
    (resolved : (c.endpointAddress net).isSome = true) :
    (connectAsync net c).connectedSession = c.connectedSession ∧
      (connectAsync net c).connects ≠ [] := by
  obtain ⟨address, found⟩ := Option.isSome_iff_exists.mp resolved
  have same : Client.endpointAddress net { c with
      lastError := .noError, lastInternalError := none } = some address := found
  unfold connectAsync tcpConnectAsync
  rw [if_neg (by rw [manual]; decide), same]
  exact ⟨rfl, by simp [increasePendingOpsCount]⟩

theorem afterDisconnected_outcome (resolved : (c.endpointAddress net).isSome = true)
    (manual : c.willReconnectIfDisconnected = true → c.manuallyDisconnect = false) (will : Bool) :
    (c.afterDisconnected net will).connectedSession = none ∧
      (c.willReconnectIfDisconnected = true → will = true →
        (c.afterDisconnected net will).connects ≠ [] ∨
          (c.afterDisconnected net will).reconnectRetryTimer.pending = 1) := by
  unfold afterDisconnected
  dsimp only
  split
  · rename_i again
    split
    · exact ⟨rfl, fun _ _ => .inr rfl⟩
    · obtain ⟨session, connects⟩ := @connectAsync_resolved _ net { c with
        connectedSession := none, currentlyRetries := c.currentlyRetries + 1 }
        (manual again.1) resolved
      exact ⟨session, fun _ _ => .inl connects⟩
  · rename_i last
    exact ⟨rfl, fun wanted will => absurd ⟨wanted, will⟩ last⟩

theorem disconnectedReturned_outcome (resolved : (c.endpointAddress net).isSome = true)
    (manual : c.willReconnectIfDisconnected = true → c.manuallyDisconnect = false) (will : Bool) :
    (c.delegateReturned net (.disconnected will)).connectedSession = none ∧
      (c.willReconnectIfDisconnected = true → will = true →
        (c.delegateReturned net (.disconnected will)).connects ≠ [] ∨
          (c.delegateReturned net (.disconnected will)).reconnectRetryTimer.pending = 1) := by
  obtain ⟨left, failed, shape, _⟩ := processFailedPackets_shape { c with running := none }
  unfold delegateReturned
  dsimp only
  rw [shape]
  exact afterDisconnected_outcome (by exact resolved) (by exact manual) will

theorem reported_of_ending (sound : Sound net .ending c) (alive : c.destroyed = false)
    (session : c.connectedSession ≠ none) :
    ∃ d, c.step net maxPacketSize .runDisconnected = some d ∧
      d.running = some (.disconnected c.willContinueReconnect) ∧
      ∃ f, d.step net maxPacketSize .delegateReturned = some f ∧ f.connectedSession = none ∧
        (c.willContinueReconnect = true → f.connects ≠ [] ∨ f.reconnectRetryTimer.pending = 1) := by
  obtain ⟨⟨_, _, _, _, _, _, _, closed⟩, posts, idle⟩ := sound.phase
  obtain ⟨s, session⟩ := Option.ne_none_iff_exists'.mp session
  obtain ⟨_, operations, retries⟩ := closed s session
  have free : c.busy = false := by
    cases reading : s.reading with
    | none => simp [busy, idle, session, reading]
    | some r => simp [TcpSession.operations, reading] at operations
  obtain ⟨gone, again⟩ := @disconnectedReturned_outcome _ net { c with
    disconnectedPosts := c.disconnectedPosts - 1
    running := some (.disconnected c.willContinueReconnect) } (sound.resolved rfl) sound.manual
    c.willContinueReconnect
  refine ⟨{ c with
    disconnectedPosts := c.disconnectedPosts - 1
    running := some (.disconnected c.willContinueReconnect) }, ?_, rfl, _, ?_, gone, ?_⟩
  · simp [step, alive, free, runHandler, posts, disconnected, retries, willContinueReconnect]
  · simp only [step, alive, Bool.false_eq_true, if_false, Option.map_some]
  · intro will
    exact again (Bool.and_eq_true_iff.mp will).1 will

theorem noticed_of_broken (sound : Sound net p c) (broken : c.Broken) (unarmed : c.Unarmed) :
    c.Noticed net maxPacketSize := by
  have working := working_of_broken sound broken
  obtain ⟨s, closed⟩ := closed_of_error sound working broken.session broken.error
  have none := unarmed broken.error
  refine ⟨none, ?_, closed.goesOn broken.alive none, ?_⟩
  · rcases working with rfl | rfl
    · have left := remaining_of_active sound
      obtain ⟨t, active, some_operation⟩ := sound.phase
      have count := active.count
      omega
    · have count := sound.phase.count
      have left := remaining_of_ending sound
      omega
  · intro left
    rcases working with rfl | rfl
    · have some_left := remaining_of_active sound
      omega
    · exact reported_of_ending sound broken.alive broken.session

structure Watched (net : Addresses Address) (c : Client Address) : Prop where
  sound : ∃ p, Sound net p c
  unarmed : c.Unarmed

theorem watched_step (watched : c.Watched net) (inTime : c.breaksInTime maxPacketSize e)
    (moved : step net maxPacketSize c e = some d) : d.Watched net := by
  obtain ⟨p, sound⟩ := watched.sound
  obtain ⟨q, follows⟩ := step_follows sound moved
  exact ⟨⟨q, follows.sound⟩, unarmed_step sound watched.unarmed inTime moved⟩

theorem broken_step (watched : c.Watched net) (broken : c.Broken) (other : e ≠ .runDisconnected)
    (moved : step net maxPacketSize c e = some d) :
    d.Broken ∧ d.Watched net ∧ d.remaining + (if e.completes then 1 else 0) ≤ c.remaining := by
  have late : c.breaksInTime maxPacketSize e := fun fresh => absurd fresh broken.error
  have after := watched_step watched late moved
  obtain ⟨p, sound⟩ := watched.sound
  have working := working_of_broken sound broken
  obtain ⟨s, closed⟩ := closed_of_error sound working broken.session broken.error
  have drains := drains_step sound working closed (watched.unarmed broken.error) other moved
  refine ⟨⟨drains.alive.trans broken.alive, drains.session, ?_, drains.unreported⟩, after,
    drains.remaining⟩
  rw [drains.error]
  exact broken.error

/-- In every run in which no keep-alive is due when a connection breaks, the connection is
    noticed: whatever happens then, no keep-alive is armed, the operations end, and after the
    last one DisconnectedHandler is called. -/
theorem broken_connection_noticed
    (run : Reach (step net maxPacketSize) (breaksInTime maxPacketSize) {} c) (broken : c.Broken) :
    ∀ es d, exec (step net maxPacketSize) c es = some d → .runDisconnected ∉ es →
      d.Broken ∧ d.Noticed net maxPacketSize ∧
        d.remaining + es.countP ClientEvent.completes ≤ c.remaining := by
  have watched : c.Watched net := by
    refine reach_invariant (Watched net) ⟨⟨.idle, sound_initial net⟩, ?_⟩
      (fun _ _ _ watched inTime moved => watched_step watched inTime moved) run
    exact unarmed_of_fresh rfl
  clear run
  intro es
  -- the rest of the run, from any broken state
  induction es generalizing c with
  | nil =>
    intro d ran _
    cases ran
    obtain ⟨p, sound⟩ := watched.sound
    exact ⟨broken, noticed_of_broken sound broken watched.unarmed, Nat.le_refl _⟩
  | cons e rest ih =>
    intro d ran unreported
    obtain ⟨other, later⟩ := not_or.mp (unreported ∘ List.mem_cons.mpr)
    obtain ⟨m, moved, ran⟩ := Option.bind_eq_some_iff.mp ran
    obtain ⟨still, watched, fewer⟩ := broken_step watched broken (Ne.symm other) moved
    obtain ⟨end_broken, noticed, left⟩ := ih still watched d ran later
    refine ⟨end_broken, noticed, ?_⟩
    rw [List.countP_cons]
    omega

def closedByRemote : List ClientEvent :=
  [.connectAsync (.ip "127.0.0.1") 80 clientFlagKeepAlive, .connectDone none,
    .headerRead (some .eof) 0]

instance (c : Client Address) : Decidable c.Broken :=
  decidable_of_iff (c.destroyed = false ∧ c.connectedSession ≠ none ∧ c.lastError ≠ .noError ∧
      c.running ≠ some (.disconnected true) ∧ c.running ≠ some (.disconnected false))
    ⟨fun ⟨alive, session, error, yes, no⟩ => ⟨alive, session, error, fun will => by
        cases will
        · exact no
        · exact yes⟩,
      fun broken => ⟨broken.alive, broken.session, broken.error, broken.unreported true,
        broken.unreported false⟩⟩

theorem closed_by_remote_noticed : ∃ c, Reach (step localhost 0x80000) (breaksInTime 0x80000) {} c ∧
    c.Broken ∧ ∀ d, exec (step localhost 0x80000) c [.runKeepAliveAborted] = some d →
      d.Noticed localhost 0x80000 := by
  obtain ⟨c, run, broken⟩ := execWithin_any (step localhost 0x80000) (breaksInTime 0x80000) {}
    closedByRemote (fun c => decide c.Broken) (by decide +kernel)
  have broken := of_decide_eq_true broken
  exact ⟨c, run, broken, fun d ran =>
    (broken_connection_noticed run broken _ d ran (by decide)).2.1⟩

/-- The keep-alive is due already when the other side closes the connection. -/
theorem keep_alive_armed_after_error : ¬ ∀ c : Client (BitVec 32),
    Reach (step localhost 0x80000) always {} c → c.Broken → c.Noticed localhost 0x80000 := by
  intro all
  obtain ⟨c, run, armed⟩ := execWithin_any (step localhost 0x80000) (fun _ _ => True) {}
    [.connectAsync (.ip "127.0.0.1") 80 clientFlagKeepAlive, .connectDone none,
      .keepAliveExpires, .headerRead (some .eof) 0, .runKeepAlive]
    (fun c => decide (c.Broken ∧ c.keepAliveTimer.live = 1)) (by decide +kernel)
  obtain ⟨broken, armed⟩ := of_decide_eq_true armed
  have none := (all c run broken).unarmed
  rw [armed] at none
  contradiction

end Client

end LaluneServer.NetLib
