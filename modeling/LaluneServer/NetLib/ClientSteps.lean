import LaluneServer.NetLib.ClientLifecycle

/- Every event of a client follows the life cycle, and only two kinds of calls lead
   into its dead ends. -/
namespace LaluneServer.NetLib
open DeadlineTimer

namespace Client
variable {Address : Type*} {net : Addresses Address} {c d : Client Address} {s : TcpSession}
  {missing : Int} {p : Phase}

theorem active_or_gone (sound : Sound net p c) : p = .active ∨ c.Detached ∨ c.Ended := by
  cases p with
  | idle => exact Or.inr (Or.inl sound.phase.toDetached)
  | connecting => exact Or.inr (Or.inl sound.phase.toDetached)
  | active => exact Or.inl rfl
  | ending => exact Or.inr (Or.inr sound.phase.toEnded)
  | reporting => exact Or.inr (Or.inr sound.phase.toEnded)
  | waiting => exact Or.inr (Or.inl sound.phase.toDetached)
  | stuck => exact Or.inr (Or.inl sound.phase.toDetached)
  | unresolved => exact Or.inr (Or.inl sound.phase.toDetached)

theorem active_of_connected (sound : Sound net p c) (session : c.connectedSession = some s)
    (connected : s.isConnected = true) : p = .active := by
  rcases active_or_gone sound with active | detached | ended
  · exact active
  · rw [detached.session] at session
    contradiction
  · rw [(ended.closed s session).1] at connected
    contradiction

theorem active_of_operation (sound : Sound net p c) (busy : 0 < sessionOperations
    c.connectedSession ∨ c.sendFinishes ≠ [] ∨ 0 < c.keepAliveTimer.waits) : p = .active := by
  rcases active_or_gone sound with active | detached | ended
  · exact active
  · rw [detached.session, detached.finishes, detached.keepAlive] at busy
    simp [sessionOperations] at busy
  · rw [ended.finishes, ended.keepAlive] at busy
    have some_session : 0 < sessionOperations c.connectedSession := by
      rcases busy with session | none | none
      · exact session
      · exact absurd rfl none
      · exact absurd none (Nat.lt_irrefl 0)
    cases session : c.connectedSession with
    | none =>
      rw [session] at some_session
      exact absurd some_session (Nat.lt_irrefl 0)
    | some s =>
      rw [session] at some_session
      have none := (ended.closed s session).2.1
      simp only [sessionOperations, Option.map_some, Option.getD_some] at some_session
      omega

theorem phase_of_running (sound : Sound net p c) {r : Running} (running : c.running = some r) :
    (p = .active ∧ ∃ packet, r = .sendFinish packet) ∨
      (p = .reporting ∧ ∀ packet, r ≠ .sendFinish packet) := by
  have none : c.running ≠ none := by
    rw [running]
    exact Option.some_ne_none r
  cases p with
  | idle => exact absurd sound.phase.running none
  | connecting => exact absurd sound.phase.running none
  | active =>
    obtain ⟨s, active, _⟩ := sound.phase
    rcases active.running with idle | ⟨packet, finish⟩
    · exact absurd idle none
    · rw [running] at finish
      exact Or.inl ⟨rfl, packet, Option.some.inj finish⟩
  | ending => exact absurd sound.phase.running none
  | reporting =>
    refine Or.inr ⟨rfl, ?_⟩
    rintro packet rfl
    obtain ⟨will, ⟨other, _⟩ | ⟨other, _⟩⟩ := sound.phase.running
    · simp [other] at running
    · simp [other] at running
  | waiting => exact absurd sound.phase.running none
  | stuck => exact absurd sound.phase.running none
  | unresolved => exact absurd sound.phase.running none

theorem phase_of_live (sound : Sound net p c) (live : c.reconnectRetryTimer.live ≠ 0) :
    p = .waiting ∨ p = .stuck := by
  cases p with
  | idle => exact absurd sound.phase.retry live
  | connecting => exact absurd sound.phase.retry live
  | active =>
    obtain ⟨s, active, _⟩ := sound.phase
    exact absurd active.retry live
  | ending => exact absurd sound.phase.retry live
  | reporting => exact absurd sound.phase.retry live
  | waiting => exact Or.inl rfl
  | stuck => exact Or.inr rfl
  | unresolved => exact absurd sound.phase.retry live

theorem active_of_reading (sound : Sound net p c) (session : c.connectedSession = some s)
    (reading : s.reading.isSome = true) : p = .active := by
  refine active_of_operation sound (Or.inl ?_)
  rw [session]
  exact TcpSession.operations_of_reading reading

theorem samePhase_sendFailed (c : Client Address) (packet : NetlibPacket) :
    SamePhase c (c.sendFailedHandler packet) := by
  constructor <;> first | rfl | exact id

theorem Working.sendPacket (w : Working net missing s c) (packet : NetlibPacket) :
    ∃ t, Working net missing t (c.sendPacket packet) ∧
      (c.sendPacket packet).keepAliveTimer = c.keepAliveTimer ∧
      c.operations ≤ (c.sendPacket packet).operations := by
  unfold Client.sendPacket
  rw [w.active.session]
  by_cases connected : s.isConnected = true
  · obtain ⟨t, next, _, more, _, shape⟩ := w.sendAsync connected packet
    simp only [connected, ↓reduceIte]
    refine ⟨t, next, by rw [shape], ?_⟩
    rw [next.active.operations_eq, w.active.operations_eq, shape]
    simp only
    omega
  · have same := samePhase_sendFailed c packet
    simp only [connected, Bool.false_eq_true, ↓reduceIte]
    exact ⟨s, ⟨same.active w.active, w.manual, w.resolved⟩, rfl, Nat.le_refl _⟩

theorem moves_sendPacket (sound : Sound net p c) (packet : NetlibPacket) :
    Moves net p (c.sendPacket packet) := by
  by_cases connected : ∃ s, c.connectedSession = some s ∧ s.isConnected = true
  · obtain ⟨s, session, connected⟩ := connected
    obtain rfl := active_of_connected sound session connected
    obtain ⟨t, active, positive⟩ := sound.phase
    obtain ⟨u, next, _, more⟩ :=
      Working.sendPacket ⟨active, sound.manual, sound.resolved rfl⟩ packet
    exact next.moves (by omega)
  · have failed : c.sendPacket packet = c.sendFailedHandler packet := by
      unfold Client.sendPacket
      cases session : c.connectedSession with
      | none => rfl
      | some s =>
        have closed : ¬ s.isConnected = true := fun yes => connected ⟨s, session, yes⟩
        simp only [closed, Bool.false_eq_true, ↓reduceIte]
    rw [failed]
    exact (samePhase_sendFailed c packet).moves net sound

theorem accept_spec (c : Client Address) (data : Bytes) (copy : Bool) (pHint : BitVec 64) :
    ∃ packet, c.accept data copy pHint =
        { c with accepted := c.accepted ++ [packet] }.sendPacket packet ∧
      packet.stamp = c.accepted.length :=
  ⟨{ data := data, copy := copy, pHint := pHint, stamp := c.accepted.length }, rfl, rfl⟩

theorem moves_accept (sound : Sound net p c) (data : Bytes) (copy : Bool) (pHint : BitVec 64) :
    Moves net p (c.accept data copy pHint) := by
  obtain ⟨packet, accepted, _⟩ := accept_spec c data copy pHint
  rw [accepted]
  have same : SamePhase c { c with accepted := c.accepted ++ [packet] } := by
    constructor <;> first | rfl | exact id
  exact moves_sendPacket (same.sound net sound) packet

theorem Working.setKeepAlive (w : Working net missing s c) {timer : Timer} {rest : Int}
    (small : timer.waits ≤ 1) (balance : missing + c.keepAliveTimer.waits = rest + timer.waits) :
    Working net rest s { c with keepAliveTimer := timer } := by
  obtain ⟨⟨session, connects, posts, running, keepAlive, retry, count, process, retries, queue,
    linked⟩, manual, resolved⟩ := w
  refine ⟨⟨session, connects, posts, running, small, retry, ?_, process, retries, queue, linked⟩,
    manual, resolved⟩
  show c.pendingOpsCount = _
  simp only [Client.operations] at count ⊢
  push_cast at count ⊢
  omega

theorem Working.setAccepted (w : Working net missing s c)
    (accepted : List NetlibPacket) :
    Working net missing s { c with accepted := accepted } := by
  have same : SamePhase c { c with accepted := accepted } := by
    constructor <;> first | rfl | exact id
  exact ⟨same.active w.active, w.manual, w.resolved⟩

theorem Working.sendCopyAsync (w : Working net missing s c) (data : Bytes) (pHint : BitVec 64) :
    ∃ t, Working net missing t (c.sendCopyAsync data pHint) ∧
      (c.sendCopyAsync data pHint).keepAliveTimer.waits = c.keepAliveTimer.waits := by
  obtain ⟨packet, accepted, _⟩ := accept_spec c (data.take (readUint32 data)) true pHint
  unfold Client.sendCopyAsync
  rw [accepted]
  obtain ⟨t, next, same, _⟩ := (w.setAccepted (c.accepted ++ [packet])).sendPacket packet
  exact ⟨t, next, congrArg Timer.waits same⟩

theorem moves_keepAlive (sound : Sound net p c) {timer : Timer}
    (taken : c.keepAliveTimer.takeExpired = some timer) :
    Moves net p { c with keepAliveTimer := timer }.sendKeepAlive := by
  obtain ⟨waits, _⟩ := Timer.takeExpired_spec taken
  obtain rfl := active_of_operation sound (Or.inr (Or.inr (by omega)))
  obtain ⟨s, w⟩ := working_of_sound sound
  have few := w.active.keepAlive
  have ended : Working net 1 s { c with keepAliveTimer := timer } :=
    w.setKeepAlive (by omega) (by omega)
  obtain ⟨t, sent, same⟩ := ended.sendCopyAsync (uint32Bytes 4) 0
  unfold sendKeepAlive sendKeepAliveInFuture
  generalize { c with keepAliveTimer := timer }.sendCopyAsync (uint32Bytes 4) 0 = d at sent same ⊢
  have same : d.keepAliveTimer.waits = timer.waits := same
  have restarted : Working net 0 t { d with keepAliveTimer := d.keepAliveTimer.expiresFromNow } := by
    refine sent.setKeepAlive ?_ ?_
    · rw [Timer.expiresFromNow_waits]
      omega
    · rw [Timer.expiresFromNow_waits]
      push_cast
      omega
  refine restarted.moves ?_
  rw [restarted.active.operations_eq, Timer.expiresFromNow_waits]
  omega

theorem moves_keepAliveAborted (sound : Sound net p c) {timer : Timer}
    (taken : c.keepAliveTimer.takeAborted = some timer) :
    Moves net p { c with keepAliveTimer := timer }.decreasePendingOpsCount := by
  obtain ⟨waits, _⟩ := Timer.takeAborted_spec taken
  obtain rfl := active_of_operation sound (Or.inr (Or.inr (by omega)))
  obtain ⟨s, w⟩ := working_of_sound sound
  have few := w.active.keepAlive
  have ended : Working net 1 s { c with keepAliveTimer := timer } :=
    w.setKeepAlive (by omega) (by omega)
  exact ended.moves_decrease

theorem moves_runSendFinish (sound : Sound net p c) (free : c.running = none) {index : Nat}
    {packet : NetlibPacket} (posted : c.sendFinishes[index]? = some packet) :
    Moves net p { c with
      sendFinishes := c.sendFinishes.eraseIdx index
      finished := c.finished ++ [packet]
      running := some (.sendFinish packet) } := by
  obtain ⟨inside, _⟩ := List.getElem?_eq_some_iff.mp posted
  have some_finish : c.sendFinishes ≠ [] := by
    intro none
    rw [none] at inside
    exact absurd inside (Nat.not_lt_zero index)
  obtain rfl := active_of_operation sound (Or.inr (Or.inl some_finish))
  obtain ⟨s, ⟨session, connects, posts, running, keepAlive, retry, count, process, retries, queue,
    linked⟩, positive⟩ := sound.phase
  have balance : (c.sendFinishes.eraseIdx index).length + 1 = c.sendFinishes.length := by
    rw [List.length_eraseIdx_of_lt inside]
    omega
  have same : Client.operations { c with
      sendFinishes := c.sendFinishes.eraseIdx index
      finished := c.finished ++ [packet]
      running := some (.sendFinish packet) } = c.operations := by
    simp only [Client.operations, free, runningOperations]
    omega
  have next : Working net 0 s { c with
      sendFinishes := c.sendFinishes.eraseIdx index
      finished := c.finished ++ [packet]
      running := some (.sendFinish packet) } := by
    refine ⟨⟨session, connects, posts, Or.inr ⟨packet, rfl⟩, keepAlive, retry, ?_, process, retries,
      queue, linked⟩, sound.manual, sound.resolved rfl⟩
    rw [same]
    exact count
  exact next.moves (same ▸ positive)

theorem moves_sendFinishReturned (sound : Sound net p c) {packet : NetlibPacket}
    (running : c.running = some (.sendFinish packet)) :
    Moves net p { c with running := none }.decreasePendingOpsCount := by
  have active : p = .active := by
    rcases phase_of_running sound running with ⟨active, _⟩ | ⟨_, other⟩
    · exact active
    · exact absurd rfl (other packet)
  subst active
  obtain ⟨s, ⟨session, connects, posts, _, keepAlive, retry, count, process, retries, queue,
    linked⟩, positive⟩ := sound.phase
  have ended : Working net 1 s { c with running := none } := by
    refine ⟨⟨session, connects, posts, Or.inl rfl, keepAlive, retry, ?_, process, retries,
      queue, linked⟩, sound.manual, sound.resolved rfl⟩
    show c.pendingOpsCount = _
    simp only [Client.operations, running, runningOperations] at count ⊢
    push_cast at count ⊢
    omega
  exact ended.moves_decrease

theorem connectAsync_connecting {client : Client Address} (detached : client.Detached)
    (connects : client.connects = []) (retry : client.reconnectRetryTimer.live = 0)
    (count : client.pendingOpsCount = 0)
    (process : client.inDisconnectProcess = true → 0 < client.currentlyRetries)
    (retries : 0 ≤ client.currentlyRetries) (manual : client.manuallyDisconnect = false)
    (resolved : (client.endpointAddress net).isSome = true) :
    Sound net .connecting (client.connectAsync net) := by
  obtain ⟨address, found⟩ := Option.isSome_iff_exists.mp resolved
  have shape : client.connectAsync net = { client with
      lastError := .noError
      lastInternalError := none
      pendingOpsCount := client.pendingOpsCount + 1
      connects := client.connects ++ [(address, client.tcpPort)] } := by
    have same : Client.endpointAddress net { client with
        lastError := .noError, lastInternalError := none } = some address := found
    unfold connectAsync tcpConnectAsync
    rw [if_neg (by rw [manual]; decide), same]
    rfl
  rw [shape]
  refine ⟨⟨⟨detached.session, detached.finishes, detached.keepAlive, detached.posts,
    detached.running⟩, ?_, retry, ?_, process, ?_⟩, retries, fun _ => manual, fun _ => resolved⟩
  · show (client.connects ++ [(address, client.tcpPort)]).length = 1
    rw [connects]
    rfl
  · show client.pendingOpsCount + 1 = 1
    omega
  · show client.manuallyDisconnect = true ↔ NetLibError.noError ≠ .noError
    rw [manual]
    simp

/-- A connect whose destination cannot be resolved lowers the counter that it did
    not raise. -/
theorem connectAsync_unresolved {client : Client Address} (detached : client.Detached)
    (connects : client.connects = []) (retry : client.reconnectRetryTimer.live = 0)
    (count : client.pendingOpsCount = 0) (retries : 0 ≤ client.currentlyRetries)
    (manual : client.manuallyDisconnect = false)
    (unresolved : client.endpointAddress net = none) :
    Sound net .unresolved (client.connectAsync net) := by
  have shape : client.connectAsync net = { client with
      lastError := .clientConnectErrorStdEx
      lastInternalError := none
      keepAliveTimer := client.keepAliveTimer.cancel
      pendingOpsCount := client.pendingOpsCount - 1 } := by
    have same : Client.endpointAddress net { client with
        lastError := .noError, lastInternalError := none } = none := unresolved
    unfold connectAsync tcpConnectAsync
    rw [if_neg (by rw [manual]; decide), same]
    simp only [handleError, ↓reduceIte, decreasePendingOpsCount]
    refine if_neg ?_
    rintro ⟨zero, _⟩
    omega
  rw [shape]
  refine ⟨⟨⟨detached.session, detached.finishes, ?_, detached.posts, detached.running⟩, connects,
    retry, ?_, by simp⟩, retries, fun _ => manual, fun attached => by contradiction⟩
  · show client.keepAliveTimer.cancel.waits = 0
    rw [Timer.cancel_waits]
    exact detached.keepAlive
  · show client.pendingOpsCount - 1 = -1
    omega

theorem accepts_iff_idle (sound : Sound net p c) : c.acceptsConnect ↔ p = .idle := by
  have refuse : (c.pendingOpsCount ≠ 0 ∨ c.inDisconnectProcess = true) → ¬ c.acceptsConnect := by
    rintro (count | process) ⟨zero, settled⟩
    · exact count zero
    · rw [process] at settled
      contradiction
  cases p with
  | idle => exact ⟨fun _ => rfl, fun _ => ⟨sound.phase.count, sound.phase.process⟩⟩
  | connecting =>
    have count := sound.phase.count
    exact ⟨fun yes => absurd yes (refuse (Or.inl (by omega))), by simp⟩
  | active =>
    obtain ⟨s, active, positive⟩ := sound.phase
    have count := active.count
    exact ⟨fun yes => absurd yes (refuse (Or.inl (by omega))), by simp⟩
  | ending => exact ⟨fun yes => absurd yes (refuse (Or.inr sound.phase.process)), by simp⟩
  | reporting => exact ⟨fun yes => absurd yes (refuse (Or.inr sound.phase.process)), by simp⟩
  | waiting => exact ⟨fun yes => absurd yes (refuse (Or.inr sound.phase.process)), by simp⟩
  | stuck => exact ⟨fun yes => absurd yes (refuse (Or.inr sound.phase.process)), by simp⟩
  | unresolved =>
    have count := sound.phase.count
    exact ⟨fun yes => absurd yes (refuse (Or.inl (by omega))), by simp⟩

theorem startConnect_busy (sound : Sound net p c) (busy : p ≠ .idle) (destination : Destination)
    (port : BitVec 16) (flags : BitVec 64) : c.startConnect net destination port flags = c := by
  have refused : ¬ c.acceptsConnect := by
    intro accepts
    exact busy ((accepts_iff_idle sound).mp accepts)
  unfold startConnect
  rw [if_neg refused]

theorem startConnect_cases (sound : Sound net p c) (destination : Destination)
    (port : BitVec 16) (flags : BitVec 64) :
    Moves net p (c.startConnect net destination port flags) ∨
    (p = .idle ∧ (c.setDestination destination).endpointAddress net = none ∧
      Sound net .unresolved (c.startConnect net destination port flags)) := by
  unfold startConnect
  by_cases accepted : c.acceptsConnect
  · obtain rfl := (accepts_iff_idle sound).mp accepted
    rw [if_pos accepted]
    have idle := sound.phase
    have same : Client.endpointAddress net { c.setDestination destination with
        manuallyDisconnect := false
        tcpPort := port
        flags := flags
        willReconnectIfDisconnected := flags &&& clientEnableReconnectOnFirstConnect ≠ 0 } =
        (c.setDestination destination).endpointAddress net := rfl
    have detached : Detached { c.setDestination destination with
        manuallyDisconnect := false
        tcpPort := port
        flags := flags
        willReconnectIfDisconnected := flags &&& clientEnableReconnectOnFirstConnect ≠ 0 } := by
      cases destination <;>
        exact ⟨idle.session, idle.finishes, idle.keepAlive, idle.posts, idle.running⟩
    cases found : (c.setDestination destination).endpointAddress net with
    | none =>
      refine Or.inr ⟨rfl, rfl, ?_⟩
      refine connectAsync_unresolved detached ?_ ?_ ?_ ?_ rfl (same.trans found)
      · cases destination <;> exact idle.connects
      · cases destination <;> exact idle.retry
      · cases destination <;> exact idle.count
      · cases destination <;> exact sound.retries
    | some address =>
      refine Or.inl ⟨.connecting, .connect, fun dead => by contradiction, ?_⟩
      refine connectAsync_connecting detached ?_ ?_ ?_ ?_ ?_ rfl (by rw [same, found]; rfl)
      · cases destination <;> exact idle.connects
      · cases destination <;> exact idle.retry
      · cases destination <;> exact idle.count
      · intro process
        have settled : c.inDisconnectProcess = true := by
          cases destination <;> exact process
        rw [idle.process] at settled
        contradiction
      · cases destination <;> exact sound.retries
  · rw [if_neg accepted]
    exact Or.inl ⟨p, .stay p, fun _ => rfl, sound⟩

theorem Working.resendFailedData (packets : List NetlibPacket) (w : Working net missing s c)
    (connected : s.isConnected = true) :
    ∃ t, Working net missing t (resendFailedData packets c) ∧ t.isConnected = true ∧
      (Client.resendFailedData packets c).keepAliveTimer = c.keepAliveTimer := by
  induction packets generalizing c s with
  | nil => exact ⟨s, w, connected, rfl⟩
  | cons packet rest ih =>
    unfold Client.resendFailedData
    rw [w.active.session]
    have same : SamePhase c { c with failedDataQueue := rest } := by
      constructor <;> first | rfl | exact id
    have kept : Working net missing s { c with failedDataQueue := rest } :=
      ⟨same.active w.active, w.manual, w.resolved⟩
    obtain ⟨t, next, still, _, _, shape⟩ := kept.sendAsync connected packet
    obtain ⟨u, final, last, timer⟩ := ih next still
    refine ⟨u, final, last, timer.trans ?_⟩
    rw [shape]

theorem markConnected_shape (c : Client Address) : ∃ will first notifications,
    c.markConnected = { c with
      willReconnectIfDisconnected := will
      firstConnect := first
      inDisconnectProcess := if c.currentlyRetries = 0 then c.inDisconnectProcess else false
      currentlyRetries := 0
      notifications := notifications } := by
  refine ⟨if c.enableReconnect then true else c.willReconnectIfDisconnected,
    if c.currentlyRetries = 0 then false else c.firstConnect,
    c.notifications ++ (if c.currentlyRetries = 0 then [.connected] else [.reconnected]), ?_⟩
  unfold markConnected
  by_cases fresh : c.currentlyRetries = 0
  · cases enabled : c.enableReconnect <;> simp [fresh, enabled]
  · cases enabled : c.enableReconnect <;> simp [fresh, enabled]

theorem Working.startTransfers (w : Working net 1 s c) (connected : s.isConnected = true)
    (quiet : c.keepAliveTimer.waits = 0) : ∃ t, Working net 1 t c.startTransfers := by
  obtain ⟨t, next, _, timer⟩ := w.resendFailedData c.failedDataQueue connected
  unfold Client.startTransfers
  rw [w.active.session]
  simp only
  generalize Client.resendFailedData c.failedDataQueue c = d at next timer ⊢
  split
  · obtain ⟨⟨session, connects, posts, running, keepAlive, retry, count, process, retries, queue,
      linked⟩, manual, resolved⟩ := next
    have raised : Working net 2 t d.increasePendingOpsCount := by
      refine ⟨⟨session, connects, posts, running, keepAlive, retry, ?_, process, retries, queue,
        linked⟩, manual, resolved⟩
      show d.pendingOpsCount + 1 = (d.operations : Int) + 2
      omega
    refine ⟨t, raised.setKeepAlive ?_ ?_⟩
    · show d.keepAliveTimer.expiresFromNow.waits ≤ 1
      rw [Timer.expiresFromNow_waits, timer, quiet]
    · show (2 : Int) + d.keepAliveTimer.waits = 1 + d.keepAliveTimer.expiresFromNow.waits
      rw [Timer.expiresFromNow_waits]
      push_cast
      omega
  · exact ⟨t, next⟩

theorem working_connected (detached : c.Detached) (connects : c.connects = [])
    (retry : c.reconnectRetryTimer.live = 0) (count : c.pendingOpsCount = 1)
    (process : c.inDisconnectProcess = true → 0 < c.currentlyRetries)
    (error : c.lastError = .noError) (manual : c.manuallyDisconnect = false)
    (resolved : (c.endpointAddress net).isSome = true) :
    ∃ s, Working net 1 s (c.applySession (TcpSession.start {})).connectedHandler := by
  obtain ⟨will, first, notifications, shape⟩ :=
    markConnected_shape (c.applySession (TcpSession.start {}))
  unfold connectedHandler
  have settled : (if c.currentlyRetries = 0 then c.inDisconnectProcess else false) = false := by
    split
    · cases still : c.inDisconnectProcess
      · rfl
      · have := process still
        omega
    · rfl
  have started : Working net 1 (TcpSession.tcpReceiveAsync {})
      (c.applySession (TcpSession.start {})).markConnected := by
    rw [shape]
    refine ⟨⟨rfl, connects, detached.posts, Or.inl detached.running, ?_, retry, ?_, settled, rfl,
      ⟨Or.inl rfl, fun _ => rfl⟩, Or.inl ⟨rfl, rfl, error, manual⟩⟩, fun _ => manual, resolved⟩
    · show c.keepAliveTimer.waits ≤ 1
      rw [detached.keepAlive]
      omega
    · show c.pendingOpsCount + 1 = (Client.operations _ : Int) + 1
      simp only [Client.operations, applySession, TcpSession.start, List.foldl_cons,
        List.foldl_nil, ownerCall, increasePendingOpsCount, connects, detached.finishes,
        detached.running, detached.keepAlive, count]
      rfl
  refine started.startTransfers rfl ?_
  rw [shape]
  exact detached.keepAlive

theorem connecting_of_connects (sound : Sound net p c) (pending : c.connects ≠ []) :
    p = .connecting := by
  cases p with
  | idle => exact absurd sound.phase.connects pending
  | connecting => rfl
  | active =>
    obtain ⟨s, active, _⟩ := sound.phase
    exact absurd active.connects pending
  | ending => exact absurd sound.phase.connects pending
  | reporting => exact absurd sound.phase.connects pending
  | waiting => exact absurd sound.phase.connects pending
  | stuck => exact absurd sound.phase.connects pending
  | unresolved => exact absurd sound.phase.connects pending

theorem only_connect (sound : Sound net p c) {first : Address × BitVec 16}
    {others : List (Address × BitVec 16)} (pending : c.connects = first :: others) :
    p = .connecting ∧ others = [] := by
  obtain rfl := connecting_of_connects sound (by rw [pending]; exact List.cons_ne_nil _ _)
  have one := sound.phase.connects
  rw [pending, List.length_cons] at one
  exact ⟨rfl, List.eq_nil_of_length_eq_zero (by omega)⟩

theorem moves_connectFailed (sound : Sound net .connecting c) {e : Client Address}
    (shape : e = { c with
      connects := e.connects
      lastError := e.lastError
      lastInternalError := e.lastInternalError
      keepAliveTimer := e.keepAliveTimer })
    (empty : e.connects = []) (error : e.lastError ≠ .noError)
    (quiet : e.keepAliveTimer.waits = 0) :
    Moves net .connecting e.decreasePendingOpsCount := by
  obtain ⟨⟨session, finishes, keepAlive, posts, running⟩, connects, retry, count, process,
    recorded⟩ := sound.phase
  have posted : e.decreasePendingOpsCount = { e with
      pendingOpsCount := e.pendingOpsCount - 1
      inDisconnectProcess := true
      disconnectedPosts := e.disconnectedPosts + 1 } := by
    unfold decreasePendingOpsCount
    refine if_pos ⟨?_, error⟩
    rw [shape]
    show c.pendingOpsCount - 1 = 0
    omega
  refine ⟨.ending, .fail, fun dead => by contradiction, ?_⟩
  rw [posted, shape]
  refine ⟨⟨⟨empty, finishes, quiet, retry, ?_, rfl, error, ?_⟩, ?_, running⟩,
    sound.retries, sound.manual, fun _ => sound.resolved rfl⟩
  · show c.pendingOpsCount - 1 = 0
    omega
  · intro s other
    have none : c.connectedSession = some s := other
    rw [session] at none
    contradiction
  · show c.disconnectedPosts + 1 = 1
    omega

theorem moves_connectDone (sound : Sound net p c) {first : Address × BitVec 16}
    {others : List (Address × BitVec 16)} (pending : c.connects = first :: others)
    (error : Outcome) :
    Moves net p ({ c with connects := others }.tcpConnectedHandler error) := by
  obtain ⟨rfl, empty⟩ := only_connect sound pending
  obtain ⟨⟨session, finishes, keepAlive, posts, running⟩, connects, retry, count, process,
    recorded⟩ := sound.phase
  unfold tcpConnectedHandler
  cases error with
  | some code =>
    simp only
    by_cases fresh : c.lastError = .noError
    · have shape : { c with connects := others }.handleError .clientConnectError (some code) =
          { c with
            connects := others
            lastError := .clientConnectError
            lastInternalError := some code
            keepAliveTimer := c.keepAliveTimer.cancel } := if_pos fresh
      rw [shape]
      refine moves_connectFailed sound rfl empty
        (show NetLibError.clientConnectError ≠ .noError by decide) ?_
      show c.keepAliveTimer.cancel.waits = 0
      rw [Timer.cancel_waits, keepAlive]
    · have shape : { c with connects := others }.handleError .clientConnectError (some code) =
          { c with connects := others } := if_neg fresh
      rw [shape]
      exact moves_connectFailed sound rfl empty fresh keepAlive
  | none =>
    simp only
    by_cases cancelled : c.manuallyDisconnect = true
    · rw [if_pos cancelled]
      exact moves_connectFailed sound rfl empty (recorded.mp cancelled) keepAlive
    · rw [if_neg cancelled, session]
      have fresh : c.lastError = .noError := by
        by_contra some_error
        exact cancelled (recorded.mpr some_error)
      obtain ⟨s, w⟩ := @working_connected _ net { c with connects := others }
        ⟨session, finishes, keepAlive, posts, running⟩ empty retry count process fresh
        (by simpa using cancelled) (sound.resolved rfl)
      rcases w.decrease with active | ending
      · exact ⟨.active, .establish, fun dead => by contradiction, active⟩
      · exact ⟨.ending, .fail, fun dead => by contradiction, ending⟩

theorem moves_runDisconnected (sound : Sound net p c) (posted : c.disconnectedPosts ≠ 0) :
    Moves net p { c with disconnectedPosts := c.disconnectedPosts - 1 }.disconnected := by
  have ending : p = .ending := by
    cases p with
    | idle => exact absurd sound.phase.posts posted
    | connecting => exact absurd sound.phase.posts posted
    | active =>
      obtain ⟨s, active, _⟩ := sound.phase
      exact absurd active.posts posted
    | ending => rfl
    | reporting => exact absurd sound.phase.posts posted
    | waiting => exact absurd sound.phase.posts posted
    | stuck => exact absurd sound.phase.posts posted
    | unresolved => exact absurd sound.phase.posts posted
  subst ending
  obtain ⟨⟨connects, finishes, keepAlive, retry, count, process, error, closed⟩, posts,
    running⟩ := sound.phase
  refine ⟨.reporting, .report, fun dead => by contradiction, ⟨⟨connects, finishes, keepAlive, retry,
    count, process, error, closed⟩, ?_, ?_⟩, sound.retries, sound.manual,
    fun _ => sound.resolved rfl⟩
  · show c.disconnectedPosts - 1 = 0
    omega
  · by_cases first : c.currentlyRetries = 0
    · refine ⟨c.willContinueReconnect, Or.inl ⟨?_, first⟩⟩
      exact congrArg some (if_pos first)
    · refine ⟨c.willContinueReconnect, Or.inr ⟨?_, ?_, first⟩⟩
      · exact congrArg some (if_neg first)
      · show c.connectedSession = none
        cases session : c.connectedSession with
        | none => rfl
        | some s => exact absurd (closed s session).2.2 first

theorem moves_afterDisconnected (ended : c.Ended) (posts : c.disconnectedPosts = 0)
    (running : c.running = none) (retries : 0 ≤ c.currentlyRetries)
    (manual : c.willReconnectIfDisconnected = true → c.manuallyDisconnect = false)
    (resolved : (c.endpointAddress net).isSome = true) (will : Bool) :
    Moves net .reporting (c.afterDisconnected net will) := by
  have detached : Detached { c with connectedSession := none } :=
    ⟨rfl, ended.finishes, ended.keepAlive, posts, running⟩
  unfold afterDisconnected
  simp only
  split
  · rename_i again
    split
    · refine ⟨.waiting, .retryLater, fun dead => by contradiction,
        ⟨⟨rfl, ended.finishes, ended.keepAlive, posts, running⟩, ended.connects, ?_, ended.count,
          ended.process, manual again.1, ended.error⟩, retries, manual, fun _ => resolved⟩
      have quiet := ended.retry
      rw [Timer.expiresFromNow_live]
      simp only [Timer.live] at quiet
      omega
    · refine ⟨.connecting, .retryAtOnce, fun dead => by contradiction, ?_⟩
      refine connectAsync_connecting ⟨rfl, ended.finishes, ended.keepAlive, posts, running⟩
        ended.connects ended.retry ended.count ?_ ?_ (manual again.1) resolved
      · intro _
        show 0 < c.currentlyRetries + 1
        omega
      · show 0 ≤ c.currentlyRetries + 1
        omega
  · exact ⟨.idle, .reset, fun dead => by contradiction,
      ⟨⟨rfl, ended.finishes, ended.keepAlive, posts, running⟩, ended.connects, ended.retry,
        ended.count, rfl, rfl⟩, Int.le_refl 0, fun no => by contradiction,
      fun attached => by contradiction⟩

theorem foldl_sendFailed (packets : List NetlibPacket) (c : Client Address) :
    (packets.map OwnerCall.sendFailedHandler).foldl ownerCall c =
      { c with failedDataQueue := c.failedDataQueue ++ packets } := by
  induction packets generalizing c with
  | nil => simp
  | cons packet rest ih =>
    rw [List.map_cons, List.foldl_cons, ih]
    simp [ownerCall, sendFailedHandler]

theorem processFailedPackets_shape (c : Client Address) : ∃ session failed,
    c.processFailedPackets = { c with
      connectedSession := session, failedDataQueue := c.failedDataQueue ++ failed } ∧
    ((c.connectedSession = none ∧ session = none ∧ failed = []) ∨
      ∃ s, c.connectedSession = some s ∧ session = some { s with asyncSendQueue := [] } ∧
        failed = s.asyncSendQueue) := by
  cases session : c.connectedSession with
  | none =>
    refine ⟨none, [], ?_, Or.inl ⟨rfl, rfl, rfl⟩⟩
    unfold processFailedPackets
    rw [session, List.append_nil]
    simp only [← session]
  | some s =>
    refine ⟨_, _, ?_, Or.inr ⟨s, rfl, rfl, rfl⟩⟩
    unfold processFailedPackets applySession TcpSession.processFailedPackets
    rw [session]
    simp only
    rw [foldl_sendFailed]

theorem reporting_of_running (sound : Sound net p c) {r : Running} (running : c.running = some r)
    (other : ∀ packet, r ≠ .sendFinish packet) : p = .reporting := by
  rcases phase_of_running sound running with ⟨_, packet, finish⟩ | ⟨reporting, _⟩
  · exact absurd finish (other packet)
  · exact reporting

theorem session_of_reconnectFailed (sound : Sound net p c) {will : Bool}
    (running : c.running = some (.reconnectFailed will)) : c.connectedSession = none := by
  obtain rfl := reporting_of_running sound running (by simp)
  obtain ⟨_, ⟨other, _⟩ | ⟨_, none, _⟩⟩ := sound.phase.running
  · simp [other] at running
  · exact none

theorem moves_delegateReturned (sound : Sound net p c) {r : Running}
    (running : c.running = some r) : Moves net p (c.delegateReturned net r) := by
  cases r with
  | sendFinish packet => exact moves_sendFinishReturned sound running
  | disconnected will =>
    obtain rfl := reporting_of_running sound running (by simp)
    obtain ⟨⟨connects, finishes, keepAlive, retry, count, process, error, closed⟩, posts, _⟩ :=
      sound.phase
    obtain ⟨session, failed, shape, origin⟩ := processFailedPackets_shape { c with running := none }
    show Moves net .reporting
      ({ c with running := none }.processFailedPackets.afterDisconnected net will)
    rw [shape]
    apply moves_afterDisconnected
    · refine ⟨connects, finishes, keepAlive, retry, count, process, error, ?_⟩
      intro t some_session
      rcases origin with ⟨_, none, _⟩ | ⟨s, before, after, _⟩
      · rw [none] at some_session
        contradiction
      · rw [after] at some_session
        cases some_session
        exact closed s before
    · exact posts
    · rfl
    · exact sound.retries
    · exact sound.manual
    · exact sound.resolved rfl
  | reconnectFailed will =>
    obtain rfl := reporting_of_running sound running (by simp)
    obtain ⟨⟨connects, finishes, keepAlive, retry, count, process, error, closed⟩, posts, _⟩ :=
      sound.phase
    apply moves_afterDisconnected
    · exact ⟨connects, finishes, keepAlive, retry, count, process, error, closed⟩
    · exact posts
    · rfl
    · exact sound.retries
    · exact sound.manual
    · exact sound.resolved rfl

theorem moves_setWillReconnect (sound : Sound net p c) {r t : Running}
    (running : c.running = some r) {will : Bool} (written : r.setWillReconnect will = some t) :
    Moves net p { c with running := some t } := by
  have other : ∀ packet, r ≠ .sendFinish packet := by
    rintro packet rfl
    contradiction
  obtain rfl := reporting_of_running sound running other
  obtain ⟨⟨connects, finishes, keepAlive, retry, count, process, error, closed⟩, posts, before⟩ :=
    sound.phase
  refine ⟨.reporting, .stay .reporting, fun _ => rfl, ⟨⟨connects, finishes, keepAlive, retry,
    count, process, error, closed⟩, posts, will, ?_⟩, sound.retries, sound.manual,
    fun _ => sound.resolved rfl⟩
  obtain ⟨_, ⟨first, zero⟩ | ⟨again, session, retries⟩⟩ := before
  · obtain rfl := Option.some.inj (running.symm.trans first)
    exact Or.inl ⟨written.symm, zero⟩
  · obtain rfl := Option.some.inj (running.symm.trans again)
    exact Or.inr ⟨written.symm, session, retries⟩

theorem moves_runRetry (sound : Sound net p c) {timer : Timer}
    (taken : c.reconnectRetryTimer.takeExpired = some timer) :
    Moves net p ({ c with reconnectRetryTimer := timer }.reconnectTimerPulse net) := by
  obtain ⟨_, live, expired, pending⟩ := Timer.takeExpired_spec taken
  have retries := sound.retries
  rcases phase_of_live sound (by omega) with rfl | rfl
  · obtain ⟨detached, connects, retry, count, process, manual, error⟩ := sound.phase
    refine ⟨.connecting, .retry, fun dead => by contradiction, ?_⟩
    refine connectAsync_connecting ⟨detached.session, detached.finishes, detached.keepAlive,
      detached.posts, detached.running⟩ connects ?_ count ?_ ?_ manual (sound.resolved rfl)
    · show timer.live = 0
      omega
    · intro _
      show 0 < c.currentlyRetries + 1
      omega
    · show 0 ≤ c.currentlyRetries + 1
      omega
  · obtain ⟨detached, connects, retry, cancelled, count, process, error⟩ := sound.phase
    have manual := cancelled (by omega)
    have shape : { c with reconnectRetryTimer := timer }.reconnectTimerPulse net =
        { c with reconnectRetryTimer := timer, currentlyRetries := c.currentlyRetries + 1 } := by
      unfold reconnectTimerPulse connectAsync
      exact if_pos manual
    rw [shape]
    refine ⟨.stuck, .stay .stuck, fun _ => rfl, ⟨⟨detached.session, detached.finishes,
      detached.keepAlive, detached.posts, detached.running⟩, connects, ?_, fun _ => manual, count,
      process, error⟩, ?_, sound.manual, fun attached => by contradiction⟩
    · show timer.pending = 0
      omega
    · show 0 ≤ c.currentlyRetries + 1
      omega

theorem moves_retryExpires (sound : Sound net p c) {timer : Timer}
    (fired : c.reconnectRetryTimer.expire = some timer) :
    Moves net p { c with reconnectRetryTimer := timer } := by
  obtain ⟨_, live, pending, positive⟩ := Timer.expire_spec fired
  have busy : c.reconnectRetryTimer.live ≠ 0 := by
    intro zero
    simp only [Timer.live] at zero
    omega
  rcases phase_of_live sound busy with rfl | rfl
  · obtain ⟨detached, connects, retry, count, process, manual, error⟩ := sound.phase
    exact ⟨.waiting, .stay .waiting, fun dead => by contradiction, ⟨⟨detached.session,
      detached.finishes, detached.keepAlive, detached.posts, detached.running⟩, connects,
      live.trans retry, count, process, manual, error⟩, sound.retries, sound.manual,
      fun _ => sound.resolved rfl⟩
  · have none := sound.phase.retry
    omega

structure GaveUp (c d : Client Address) : Prop where
  address : ∀ net : Addresses Address, d.endpointAddress net = c.endpointAddress net
  session : d.connectedSession = c.connectedSession
  connects : d.connects = c.connects
  finishes : d.sendFinishes = c.sendFinishes
  posts : d.disconnectedPosts = c.disconnectedPosts
  running : d.running = c.running
  count : d.pendingOpsCount = c.pendingOpsCount
  process : d.inDisconnectProcess = c.inDisconnectProcess
  retries : d.currentlyRetries = c.currentlyRetries
  keepAlive : d.keepAliveTimer.waits = c.keepAliveTimer.waits
  retry : d.reconnectRetryTimer = c.reconnectRetryTimer.cancel
  manual : d.manuallyDisconnect = true
  will : d.willReconnectIfDisconnected = false
  error : d.lastError ≠ .noError

theorem gaveUp_cancelConnect (c : Client Address) : GaveUp c { c with
    manuallyDisconnect := true, willReconnectIfDisconnected := false }.cancelConnect := by
  unfold cancelConnect handleError
  split
  · exact ⟨fun _ => rfl, rfl, rfl, rfl, rfl, rfl, rfl, rfl, rfl, Timer.cancel_waits _, rfl, rfl,
      rfl, by simp⟩
  · rename_i set
    exact ⟨fun _ => rfl, rfl, rfl, rfl, rfl, rfl, rfl, rfl, rfl, rfl, rfl, rfl, rfl, set⟩

theorem GaveUp.quiet (gave : GaveUp c d) (quiet : c.reconnectRetryTimer.live = 0) :
    d.reconnectRetryTimer.live = 0 := by
  rw [gave.retry, Timer.cancel_live]
  simp only [Timer.live] at quiet
  omega

theorem GaveUp.detached (gave : GaveUp c d) (phase : c.Detached) : d.Detached :=
  ⟨gave.session.trans phase.session, gave.finishes.trans phase.finishes,
    gave.keepAlive.trans phase.keepAlive, gave.posts.trans phase.posts,
    gave.running.trans phase.running⟩

theorem GaveUp.ended (gave : GaveUp c d) (phase : c.Ended) : d.Ended := by
  refine ⟨gave.connects.trans phase.connects, gave.finishes.trans phase.finishes,
    gave.keepAlive.trans phase.keepAlive, gave.quiet phase.retry, gave.count.trans phase.count,
    gave.process.trans phase.process, gave.error, ?_⟩
  rw [gave.session, gave.retries]
  exact phase.closed

theorem GaveUp.operations (gave : GaveUp c d) : d.operations = c.operations := by
  unfold Client.operations
  rw [gave.connects, gave.session, gave.finishes, gave.running, gave.keepAlive]

theorem GaveUp.active (gave : GaveUp c d) (closed : s.isConnected = false)
    (phase : Active missing s c) : Active missing s d := by
  refine ⟨gave.session.trans phase.session, gave.connects.trans phase.connects,
    gave.posts.trans phase.posts, ?_, gave.keepAlive.trans_le phase.keepAlive,
    gave.quiet phase.retry, ?_, gave.process.trans phase.process,
    gave.retries.trans phase.retries, phase.queue, Or.inr ⟨closed, gave.error⟩⟩
  · rw [gave.running]
    exact phase.running
  · rw [gave.count, gave.operations]
    exact phase.count

theorem GaveUp.sound {q : Phase} (gave : GaveUp c d) (sound : Sound net p c)
    (attached : q.attached = true → p.attached = true) (phase : d.InPhase q) :
    Sound net q d := by
  refine ⟨phase, ?_, fun wants => ?_, fun yes => ?_⟩
  · rw [gave.retries]
    exact sound.retries
  · rw [gave.will] at wants
    contradiction
  · rw [gave.address net]
    exact sound.resolved (attached yes)

theorem GaveUp.moves (gave : GaveUp c d) (sound : Sound net p c)
    (closed : ∀ s, c.connectedSession = some s → s.isConnected = false) :
    Moves net p d ∨ (p = .waiting ∧ Sound net .stuck d) := by
  have stay (phase : d.InPhase p) : Moves net p d ∨ (p = .waiting ∧ Sound net .stuck d) :=
    Or.inl ⟨p, .stay p, fun _ => rfl, gave.sound sound id phase⟩
  cases p with
  | idle =>
    obtain ⟨before, connects, retry, count, process, retries⟩ := sound.phase
    exact stay ⟨gave.detached before, gave.connects.trans connects, gave.quiet retry,
      gave.count.trans count, gave.process.trans process, gave.retries.trans retries⟩
  | connecting =>
    obtain ⟨before, connects, retry, count, process, _⟩ := sound.phase
    refine stay ⟨gave.detached before, ?_, gave.quiet retry, gave.count.trans count, ?_,
      fun _ => gave.error, fun _ => gave.manual⟩
    · rw [gave.connects]
      exact connects
    · rw [gave.process, gave.retries]
      exact process
  | active =>
    obtain ⟨s, active, positive⟩ := sound.phase
    exact stay ⟨s, gave.active (closed s active.session) active, gave.operations ▸ positive⟩
  | ending =>
    obtain ⟨before, posts, running⟩ := sound.phase
    exact stay ⟨gave.ended before, gave.posts.trans posts, gave.running.trans running⟩
  | reporting =>
    obtain ⟨before, posts, running⟩ := sound.phase
    refine stay ⟨gave.ended before, gave.posts.trans posts, ?_⟩
    rw [gave.running, gave.session, gave.retries]
    exact running
  | waiting =>
    obtain ⟨before, connects, _, count, process, _, _⟩ := sound.phase
    refine Or.inr ⟨rfl, gave.sound sound (fun no => by contradiction)
      ⟨gave.detached before, gave.connects.trans connects, ?_, fun _ => gave.manual,
        gave.count.trans count, gave.process.trans process, gave.error⟩⟩
    rw [gave.retry]
    rfl
  | stuck =>
    obtain ⟨before, connects, _, _, count, process, _⟩ := sound.phase
    refine stay ⟨gave.detached before, gave.connects.trans connects, ?_, fun _ => gave.manual,
      gave.count.trans count, gave.process.trans process, gave.error⟩
    rw [gave.retry]
    rfl
  | unresolved =>
    obtain ⟨before, connects, retry, count, _⟩ := sound.phase
    exact stay ⟨gave.detached before, gave.connects.trans connects, gave.quiet retry,
      gave.count.trans count, gave.error⟩

theorem closeInto_manual (c : Client Address) (s t : TcpSession) (error : NetLibError)
    (internal : Outcome) :
    { c with manuallyDisconnect := true, willReconnectIfDisconnected := false }.closeInto s t error
        internal =
      { c.closeInto s t error internal with
        manuallyDisconnect := true, willReconnectIfDisconnected := false } := by
  unfold closeInto handleError
  split
  · split <;> rfl
  · rfl

theorem closeInto_pendingOpsCount (c : Client Address) (s t : TcpSession) (error : NetLibError)
    (internal : Outcome) : (c.closeInto s t error internal).pendingOpsCount = c.pendingOpsCount := by
  unfold closeInto handleError
  split_ifs <;> rfl

theorem disconnect_connected (process : c.inDisconnectProcess = false)
    (session : c.connectedSession = some s) (connected : s.isConnected = true) :
    c.disconnect = { c.closeInto s { s with isConnected := false } .closeByLocal none with
      manuallyDisconnect := true, willReconnectIfDisconnected := false } := by
  rw [← closeInto_manual]
  unfold disconnect
  generalize noted : { c with
    manuallyDisconnect := true, willReconnectIfDisconnected := false } = d
  have process : d.inDisconnectProcess = false := by
    rw [← noted]
    exact process
  have session : d.connectedSession = some s := by
    rw [← noted]
    exact session
  simp only [process, session, connected, Bool.false_eq_true, ↓reduceIte,
    applySession_disconnect d s]

theorem moves_disconnect (sound : Sound net p c) :
    Moves net p c.disconnect ∨ (p = .waiting ∧ Sound net .stuck c.disconnect) := by
  by_cases online : ∃ s, c.connectedSession = some s ∧ s.isConnected = true
  · obtain ⟨s, session, connected⟩ := online
    obtain rfl := active_of_connected sound session connected
    obtain ⟨t, before, positive⟩ := sound.phase
    have same : t = s := Option.some.inj (before.session.symm.trans session)
    subst same
    have w : Working net 0 t c := ⟨before, sound.manual, sound.resolved rfl⟩
    have closing := w.closeInto (r := t) (t := { t with isConnected := false }) rfl rfl
      w.active.queue.front 0 rfl (show NetLibError.closeByLocal ≠ .noError by decide) none
    have shape := disconnect_connected before.process session connected
    have unchanged := closeInto_pendingOpsCount c t { t with isConnected := false } .closeByLocal none
    have still : 0 < (c.closeInto t { t with isConnected := false } .closeByLocal none).operations := by
      have now := closing.active.count
      have earlier := before.count
      omega
    rw [shape]
    obtain ⟨⟨session, connects, posts, running, keepAlive, retry, count, process, retries, queue,
      linked⟩, _, resolved⟩ := closing
    have real : (c.closeInto t { t with isConnected := false } .closeByLocal none).lastError ≠
        .noError := by
      rcases linked with ⟨impossible, _⟩ | ⟨_, real⟩
      · contradiction
      · exact real
    have next : Working net 0 { t with isConnected := false } { c.closeInto t
        { t with isConnected := false } .closeByLocal none with
        manuallyDisconnect := true, willReconnectIfDisconnected := false } :=
      ⟨⟨session, connects, posts, running, keepAlive, retry, count, process, retries, queue,
        Or.inr ⟨rfl, real⟩⟩, fun no => by contradiction, resolved⟩
    exact Or.inl (next.moves still)
  · have offline : ∀ s, c.connectedSession = some s → s.isConnected = false := by
      intro s session
      cases connected : s.isConnected
      · rfl
      · exact absurd ⟨s, session, connected⟩ online
    have shape : c.disconnect = { c with
        manuallyDisconnect := true, willReconnectIfDisconnected := false }.cancelConnect := by
      unfold disconnect
      simp only
      split
      · rfl
      · cases session : c.connectedSession with
        | none => rfl
        | some s => simp only [offline s session, Bool.false_eq_true, ↓reduceIte]
    rw [shape]
    exact (gaveUp_cancelConnect c).moves sound offline

theorem moves_disableReconnect (sound : Sound net p c) :
    Moves net p c.disableReconnect ∨
    (p = .waiting ∧ 0 < c.reconnectRetryTimer.pending ∧ Sound net .stuck c.disableReconnect) := by
  by_cases armed : c.reconnectRetryTimer.pending = 0
  · have same : SamePhase c c.disableReconnect := by
      constructor <;> try rfl
      · intro no
        contradiction
      · exact armed.symm
    exact Or.inl (same.moves net sound)
  · have busy : c.reconnectRetryTimer.live ≠ 0 := by
      intro zero
      simp only [Timer.live] at zero
      omega
    rcases phase_of_live sound busy with rfl | rfl
    · obtain ⟨before, connects, retry, count, process, _, error⟩ := sound.phase
      refine Or.inr ⟨rfl, by omega, ⟨⟨before.session, before.finishes, before.keepAlive,
        before.posts, before.running⟩, connects, rfl, ?_, count, process, error⟩, sound.retries,
        fun no => by contradiction, fun no => by contradiction⟩
      intro expired
      have none : 0 < c.reconnectRetryTimer.expired := expired
      simp only [Timer.live] at retry
      omega
    · exact absurd sound.phase.retry armed

end Client

end LaluneServer.NetLib
