import Mathlib.Algebra.Order.Group.Multiset
import Mathlib.Tactic.Abel
import LaluneServer.NetLib.ClientRuns

/- Where the packets of a client are. Every function but SendAsync and SendCopyAsync
   only moves packets from one place to another. -/
namespace LaluneServer.NetLib
open DeadlineTimer Transition

def ClientEvent.movesPackets : ClientEvent → Bool
  | .sendAsync .. | .sendCopyAsync .. | .resetFailedData | .connectDone _ | .writeDone _
  | .runSendFinish _ | .runKeepAlive | .delegateReturned | .destroy => true
  | _ => false

namespace Client
variable {Address : Type*} {net : Addresses Address} {maxPacketSize : Nat} {b c d : Client Address}
  {p : Phase} {e : ClientEvent}

/-- The queue of the session, failed_data_queue, the send-finish callbacks posted and
    executed, and the packets released. -/
def places (c : Client Address) : Multiset NetlibPacket :=
  sessionPackets c.connectedSession + c.failedDataQueue + c.sendFinishes + c.finished + c.released

structure Conserved (c : Client Address) : Prop where
  accounted : c.places = (c.accepted : Multiset NetlibPacket)
  once : c.places.Nodup

structure OnlyMoved (c d : Client Address) : Prop where
  accepted : d.accepted = c.accepted
  places : d.places = c.places

theorem OnlyMoved.refl (c : Client Address) : OnlyMoved c c := ⟨rfl, rfl⟩

theorem OnlyMoved.trans (first : OnlyMoved b c) (second : OnlyMoved c d) : OnlyMoved b d :=
  ⟨second.accepted.trans first.accepted, second.places.trans first.places⟩

structure SameQueues (c d : Client Address) : Prop where
  accepted : d.accepted = c.accepted
  session : c.connectedSession = none ∧ d.connectedSession = none ∨
    ∃ s t, c.connectedSession = some s ∧ d.connectedSession = some t ∧
      t.asyncSendQueue = s.asyncSendQueue ∧ (t.isConnected = true → s.isConnected = true)
  failedDataQueue : d.failedDataQueue = c.failedDataQueue
  sendFinishes : d.sendFinishes = c.sendFinishes
  finished : d.finished = c.finished
  released : d.released = c.released

theorem SameQueues.of_session (session : d.connectedSession = c.connectedSession)
    (accepted : d.accepted = c.accepted) (failedDataQueue : d.failedDataQueue = c.failedDataQueue)
    (sendFinishes : d.sendFinishes = c.sendFinishes) (finished : d.finished = c.finished)
    (released : d.released = c.released) : SameQueues c d := by
  refine ⟨accepted, ?_, failedDataQueue, sendFinishes, finished, released⟩
  cases found : c.connectedSession with
  | none => exact Or.inl ⟨rfl, session.trans found⟩
  | some s => exact Or.inr ⟨s, s, rfl, session.trans found, rfl, id⟩

theorem SameQueues.refl (c : Client Address) : SameQueues c c :=
  .of_session rfl rfl rfl rfl rfl rfl

theorem SameQueues.trans (first : SameQueues b c) (second : SameQueues c d) : SameQueues b d := by
  refine ⟨second.accepted.trans first.accepted, ?_,
    second.failedDataQueue.trans first.failedDataQueue,
    second.sendFinishes.trans first.sendFinishes, second.finished.trans first.finished,
    second.released.trans first.released⟩
  rcases second.session with ⟨none, after⟩ | ⟨s, t, before, after, queue, open_before⟩
  · rcases first.session with ⟨start, _⟩ | ⟨_, _, _, impossible, _⟩
    · exact Or.inl ⟨start, after⟩
    · rw [none] at impossible
      contradiction
  · rcases first.session with ⟨_, impossible⟩ | ⟨r, u, start, middle, queued, open_start⟩
    · rw [before] at impossible
      contradiction
    · obtain rfl := Option.some.inj (before.symm.trans middle)
      exact Or.inr ⟨r, t, start, after, queue.trans queued, open_start ∘ open_before⟩

theorem SameQueues.sessionPackets (same : SameQueues c d) :
    sessionPackets d.connectedSession = sessionPackets c.connectedSession := by
  unfold NetLib.sessionPackets
  rcases same.session with ⟨before, after⟩ | ⟨s, t, before, after, queue, _⟩
  · rw [before, after]
  · rw [before, after, Option.map_some, Option.map_some, queue]

theorem SameQueues.onlyMoved (same : SameQueues c d) : OnlyMoved c d := by
  refine ⟨same.accepted, ?_⟩
  unfold places
  rw [same.sessionPackets, same.failedDataQueue, same.sendFinishes, same.finished, same.released]

theorem sameQueues_decrease (c : Client Address) : SameQueues c c.decreasePendingOpsCount := by
  unfold decreasePendingOpsCount
  simp only
  split
  · exact .of_session rfl rfl rfl rfl rfl rfl
  · exact .of_session rfl rfl rfl rfl rfl rfl

theorem sameQueues_handleError (c : Client Address) (error : NetLibError) (internal : Outcome) :
    SameQueues c (c.handleError error internal) := by
  unfold handleError
  split
  · exact .of_session rfl rfl rfl rfl rfl rfl
  · exact .refl c

theorem sameQueues_setSession {s t : TcpSession} (session : c.connectedSession = some s)
    (queue : t.asyncSendQueue = s.asyncSendQueue)
    (open_before : t.isConnected = true → s.isConnected = true) :
    SameQueues c { c with connectedSession := some t } :=
  ⟨rfl, Or.inr ⟨s, t, session, rfl, queue, open_before⟩, rfl, rfl, rfl, rfl⟩

theorem sameQueues_closeInto {s t : TcpSession} (session : c.connectedSession = some s)
    (queue : t.asyncSendQueue = s.asyncSendQueue) (closed : t.isConnected = false)
    (r : TcpSession) (error : NetLibError) (internal : Outcome) :
    SameQueues c (c.closeInto r t error internal) := by
  have kept : SameQueues c { c with connectedSession := some t } :=
    sameQueues_setSession session queue (fun connected => by rw [closed] at connected; contradiction)
  unfold closeInto
  split
  · exact kept.trans (sameQueues_handleError _ error internal)
  · exact kept

theorem sameQueues_stopReading {s : TcpSession} (session : c.connectedSession = some s)
    (error : NetLibError) (internal : Outcome) :
    SameQueues c (c.applySession (s.stopReading error internal)) := by
  rw [applySession_stopReading]
  exact (sameQueues_closeInto session (by rfl) (by rfl) s error internal).trans
    (sameQueues_decrease _)

theorem sameQueues_header {s : TcpSession} (session : c.connectedSession = some s)
    (error : Outcome) (size : Nat) :
    SameQueues c (c.applySession (s.tcpHeaderRecv maxPacketSize error size)) := by
  rcases TcpSession.tcpHeaderRecv_cases maxPacketSize error size (s := s) with
    ⟨code, _, stops⟩ | ⟨_, continues⟩
  · rw [stops]
    exact sameQueues_stopReading session code error
  · rw [continues]
    exact sameQueues_setSession session (by rfl) id

theorem sameQueues_body {s : TcpSession} (session : c.connectedSession = some s)
    (error : Outcome) (rest : Bytes) :
    SameQueues c (c.applySession (s.tcpRecvAsyncFinished error rest)) := by
  rcases TcpSession.tcpRecvAsyncFinished_cases error rest (s := s) with
    ⟨code, _, stops⟩ | ⟨_, continues⟩
  · rw [stops]
    exact sameQueues_stopReading session code error
  · rw [continues]
    exact sameQueues_setSession session (by rfl) id

theorem sameQueues_connectAsync (c : Client Address) : SameQueues c (c.connectAsync net) := by
  unfold connectAsync tcpConnectAsync
  split
  · exact .refl c
  · split
    · exact .of_session rfl rfl rfl rfl rfl rfl
    · refine SameQueues.trans ?_ (sameQueues_decrease _)
      refine SameQueues.trans ?_ (sameQueues_handleError _ _ _)
      exact .of_session rfl rfl rfl rfl rfl rfl

theorem sameQueues_startConnect (destination : Destination) (port : BitVec 16)
    (flags : BitVec 64) : SameQueues c (c.startConnect net destination port flags) := by
  unfold startConnect
  split
  · refine SameQueues.trans ?_ (sameQueues_connectAsync _)
    cases destination <;> exact .of_session rfl rfl rfl rfl rfl rfl
  · exact .refl c

theorem sameQueues_cancelConnect (c : Client Address) : SameQueues c c.cancelConnect :=
  (sameQueues_handleError c _ _).trans (.of_session rfl rfl rfl rfl rfl rfl)

theorem sameQueues_disconnect (c : Client Address) : SameQueues c c.disconnect := by
  have noted : SameQueues c { c with
      manuallyDisconnect := true, willReconnectIfDisconnected := false } :=
    .of_session rfl rfl rfl rfl rfl rfl
  unfold disconnect
  refine noted.trans ?_
  generalize { c with manuallyDisconnect := true, willReconnectIfDisconnected := false } = d
  simp only
  split
  · exact sameQueues_cancelConnect d
  · split
    · rename_i s session
      split
      · rw [applySession_disconnect d s]
        exact sameQueues_closeInto session (by rfl) (by rfl) s .closeByLocal none
      · exact sameQueues_cancelConnect d
    · exact sameQueues_cancelConnect d

theorem onlyMoved_writeDone {s t : TcpSession} (session : c.connectedSession = some s)
    (taken : s.takeWrite = some t) {error : Outcome} {r : SessionResult}
    (done : t.tcpSendAsyncFinished error = some r) : OnlyMoved c (c.applySession r) := by
  have queue := TcpSession.takeWrite_asyncSendQueue taken
  rcases TcpSession.tcpSendAsyncFinished_cases done with
    rfl | ⟨_, _, front, rest, packets, ⟨empty, rfl⟩ | ⟨next, others, more, rfl⟩⟩
  · rw [applySession_writeFailed]
    exact ((sameQueues_closeInto (t := { t with isConnected := false }) session queue (by rfl) t
      .clientRecvError error).trans (sameQueues_decrease _)).onlyMoved
  · refine ⟨rfl, ?_⟩
    rw [queue] at packets
    simp only [places, applySession, List.foldl_cons, List.foldl_nil, ownerCall, sessionPackets,
      session, Option.map_some, Option.getD_some, packets, empty, ← Multiset.coe_add,
      ← Multiset.cons_coe, Multiset.coe_nil]
    abel
  · refine ⟨rfl, ?_⟩
    rw [queue] at packets
    simp only [places, applySession, List.foldl_cons, List.foldl_nil, ownerCall, sessionPackets,
      session, Option.map_some, Option.getD_some, packets, increasePendingOpsCount,
      ← Multiset.coe_add, ← Multiset.cons_coe, ← Multiset.singleton_add, Multiset.coe_nil]
    abel

structure Adds (packet : NetlibPacket) (c d : Client Address) : Prop where
  accepted : d.accepted = c.accepted
  places : d.places = c.places + {packet}

theorem applySession_sendAsync {s : TcpSession} (session : c.connectedSession = some s)
    (packet : NetlibPacket) : Adds packet c (c.applySession (s.sendAsync packet)) ∧
      (c.applySession (s.sendAsync packet)).failedDataQueue = c.failedDataQueue ∧
      (c.applySession (s.sendAsync packet)).connectedSession.isSome = true := by
  by_cases empty : s.asyncSendQueue = []
  · rw [TcpSession.sendAsync_first empty]
    refine ⟨⟨rfl, ?_⟩, rfl, rfl⟩
    simp only [places, applySession, List.foldl_cons, List.foldl_nil, ownerCall, sessionPackets,
      session, Option.map_some, Option.getD_some, empty, increasePendingOpsCount,
      Multiset.coe_singleton, Multiset.coe_nil]
    abel
  · rw [TcpSession.sendAsync_behind empty]
    refine ⟨⟨rfl, ?_⟩, rfl, rfl⟩
    simp only [places, applySession, List.foldl_nil, sessionPackets, session, Option.map_some,
      Option.getD_some, ← Multiset.coe_add, Multiset.coe_singleton]
    abel

theorem adds_sendFailed (c : Client Address) (packet : NetlibPacket) :
    Adds packet c (c.sendFailedHandler packet) := by
  refine ⟨rfl, ?_⟩
  simp only [places, sendFailedHandler, ← Multiset.coe_add, Multiset.coe_singleton]
  abel

theorem adds_sendPacket (c : Client Address) (packet : NetlibPacket) :
    Adds packet c (c.sendPacket packet) := by
  unfold sendPacket
  cases session : c.connectedSession with
  | none => exact adds_sendFailed c packet
  | some s =>
    simp only
    split
    · exact (applySession_sendAsync session packet).1
    · exact adds_sendFailed c packet

theorem onlyMoved_resendFailedData {packets : List NetlibPacket}
    (failed : c.failedDataQueue = packets) (some_session : c.connectedSession.isSome = true) :
    OnlyMoved c (resendFailedData packets c) := by
  induction packets generalizing c with
  | nil => exact .refl c
  | cons packet rest ih =>
    obtain ⟨s, session⟩ := Option.isSome_iff_exists.mp some_session
    unfold resendFailedData
    rw [session]
    simp only
    obtain ⟨adds, queue, still⟩ := applySession_sendAsync (c := { c with failedDataQueue := rest })
      session packet
    have moved : OnlyMoved c ({ c with failedDataQueue := rest }.applySession
        (s.sendAsync packet)) := by
      refine ⟨adds.accepted, ?_⟩
      rw [adds.places]
      simp only [places, failed, ← Multiset.cons_coe, ← Multiset.singleton_add]
      abel
    exact moved.trans (ih queue still)

theorem onlyMoved_connectedHandler (some_session : c.connectedSession.isSome = true) :
    OnlyMoved c c.connectedHandler := by
  obtain ⟨will, first, notifications, shape⟩ := markConnected_shape c
  have marked : OnlyMoved c c.markConnected := by
    rw [shape]
    exact ⟨rfl, rfl⟩
  have still : c.markConnected.connectedSession.isSome = true := by
    rw [shape]
    exact some_session
  refine marked.trans ?_
  unfold connectedHandler
  generalize c.markConnected = d at still
  obtain ⟨s, session⟩ := Option.isSome_iff_exists.mp still
  unfold startTransfers
  rw [session]
  have moved := onlyMoved_resendFailedData (c := d) rfl still
  simp only
  split
  · exact moved.trans ⟨rfl, rfl⟩
  · exact moved

theorem onlyMoved_connectDone (session : c.connectedSession = none) (error : Outcome) :
    OnlyMoved c (c.tcpConnectedHandler error) := by
  unfold tcpConnectedHandler
  refine OnlyMoved.trans ?_ (sameQueues_decrease _).onlyMoved
  cases error with
  | some code => exact (sameQueues_handleError c _ _).onlyMoved
  | none =>
    simp only
    split
    · exact .refl c
    · rw [session]
      have started : OnlyMoved c (c.applySession (TcpSession.start {})) := by
        refine ⟨rfl, ?_⟩
        unfold places
        rw [session]
        rfl
      exact started.trans (onlyMoved_connectedHandler rfl)

theorem onlyMoved_afterDisconnected (packets : sessionPackets c.connectedSession = [])
    (will : Bool) : OnlyMoved c (c.afterDisconnected net will) := by
  have dropped : OnlyMoved c { c with connectedSession := none } := by
    refine ⟨rfl, ?_⟩
    unfold places
    rw [packets]
    rfl
  unfold afterDisconnected
  refine dropped.trans ?_
  generalize { c with connectedSession := none } = d
  simp only
  split
  · split
    · exact ⟨rfl, rfl⟩
    · refine OnlyMoved.trans ?_ (sameQueues_connectAsync _).onlyMoved
      exact ⟨rfl, rfl⟩
  · exact ⟨rfl, rfl⟩

/-- disconnected() drops the session only after its queue has gone to failed_data_queue;
    without the delegate's DisconnectedHandler there is no session. -/
theorem onlyMoved_delegateReturned (sound : Sound net p c) {r : Running}
    (running : c.running = some r) : OnlyMoved c (c.delegateReturned net r) := by
  cases r with
  | sendFinish packet =>
    show OnlyMoved c { c with running := none }.decreasePendingOpsCount
    refine OnlyMoved.trans ?_ (sameQueues_decrease _).onlyMoved
    exact ⟨rfl, rfl⟩
  | disconnected will =>
    obtain ⟨session, failed, shape, origin⟩ := processFailedPackets_shape { c with running := none }
    have moved : OnlyMoved c { c with running := none }.processFailedPackets := by
      rw [shape]
      refine ⟨rfl, ?_⟩
      rcases origin with ⟨before, rfl, rfl⟩ | ⟨s, before, rfl, rfl⟩
      · have before : c.connectedSession = none := before
        simp only [places, sessionPackets, before, List.append_nil]
      · have before : c.connectedSession = some s := before
        simp only [places, sessionPackets, before, Option.map_some, Option.getD_some,
          ← Multiset.coe_add, Multiset.coe_nil]
        abel
    refine moved.trans (onlyMoved_afterDisconnected ?_ will)
    rw [shape]
    rcases origin with ⟨_, rfl, _⟩ | ⟨s, _, rfl, _⟩
    · rfl
    · rfl
  | reconnectFailed will =>
    have session := session_of_reconnectFailed sound running
    have moved : OnlyMoved c { c with running := none } := ⟨rfl, rfl⟩
    refine moved.trans (onlyMoved_afterDisconnected ?_ will)
    show sessionPackets c.connectedSession = []
    rw [session]
    rfl

/-- The invariant: the places hold what was accepted, and the packets accepted are
    numbered one after the other. -/
structure Accounted (c : Client Address) : Prop where
  places : c.places = (c.accepted : Multiset NetlibPacket)
  numbered : c.accepted.map NetlibPacket.stamp = List.range c.accepted.length

theorem Accounted.moved (before : c.Accounted) (moved : OnlyMoved c d) : d.Accounted := by
  refine ⟨?_, ?_⟩
  · rw [moved.places, moved.accepted]
    exact before.places
  · rw [moved.accepted]
    exact before.numbered

theorem accounted_accept (before : c.Accounted) (data : Bytes) (copy : Bool)
    (pHint : BitVec 64) : (c.accept data copy pHint).Accounted := by
  obtain ⟨packet, shape, stamp⟩ := accept_spec c data copy pHint
  have adds := adds_sendPacket { c with accepted := c.accepted ++ [packet] } packet
  rw [shape]
  have accepted : _ = c.accepted ++ [packet] := adds.accepted
  refine ⟨?_, ?_⟩
  · rw [adds.places, accepted, ← Multiset.coe_add, ← before.places, Multiset.coe_singleton]
    rfl
  · rw [accepted, List.map_append, before.numbered, List.length_append, List.map_singleton,
      stamp, List.length_singleton, List.range_succ]

theorem Accounted.conserved (accounted : c.Accounted) : c.Conserved := by
  refine ⟨accounted.places, ?_⟩
  rw [accounted.places, Multiset.coe_nodup]
  refine List.Nodup.of_map NetlibPacket.stamp ?_
  rw [accounted.numbered]
  exact List.nodup_range

theorem step_sameQueues (quiet : e.movesPackets = false)
    (moved : step net maxPacketSize c e = some d) : SameQueues c d := by
  cases occurs_of_step moved with
  | connectAsync destination port flags => exact sameQueues_startConnect destination port flags
  | disconnect => exact sameQueues_disconnect c
  | disableReconnect => exact .of_session rfl rfl rfl rfl rfl rfl
  | enableReconnect retries => exact .of_session rfl rfl rfl rfl rfl rfl
  | @recvHandlerReturned s session reading =>
    exact sameQueues_setSession (t := s.tcpReceiveAsync) session (by rfl) id
  | keepAliveExpires fired => exact .of_session rfl rfl rfl rfl rfl rfl
  | retryExpires fired => exact .of_session rfl rfl rfl rfl rfl rfl
  | headerRead error size session reading => exact sameQueues_header session error size
  | bodyRead error rest session reading whole => exact sameQueues_body session error rest
  | runDisconnected posted => exact .of_session rfl rfl rfl rfl rfl rfl
  | setWillReconnect will running written => exact .of_session rfl rfl rfl rfl rfl rfl
  | runNotification index posted => exact .of_session rfl rfl rfl rfl rfl rfl
  | @runKeepAliveAborted timer taken =>
    have kept : SameQueues c { c with keepAliveTimer := timer } :=
      .of_session rfl rfl rfl rfl rfl rfl
    exact kept.trans (sameQueues_decrease _)
  | @runRetry timer taken =>
    have kept : SameQueues c { c with
        reconnectRetryTimer := timer, currentlyRetries := c.currentlyRetries + 1 } :=
      .of_session rfl rfl rfl rfl rfl rfl
    exact kept.trans (sameQueues_connectAsync _)
  | runRetryAborted taken => exact .of_session rfl rfl rfl rfl rfl rfl
  | _ => contradiction

theorem step_accounted (sound : Sound net p c) (before : c.Accounted)
    (moved : step net maxPacketSize c e = some d) : d.Accounted := by
  cases busy : e.movesPackets with
  | false => exact before.moved (step_sameQueues busy moved).onlyMoved
  | true =>
    cases occurs_of_step moved with
    | sendAsync data pHint => exact accounted_accept before data false pHint
    | sendCopyAsync data pHint => exact accounted_accept before _ true pHint
    | resetFailedData =>
      refine before.moved ⟨rfl, ?_⟩
      simp only [places, resetFailedData, ← Multiset.coe_add, Multiset.coe_nil]
      abel
    | delegateReturned running => exact before.moved (onlyMoved_delegateReturned sound running)
    | @connectDone error first others pending =>
      obtain rfl := connecting_of_connects sound (by rw [pending]; simp)
      have taken : Accounted { c with connects := others } := before.moved ⟨rfl, rfl⟩
      exact taken.moved (onlyMoved_connectDone (by exact sound.phase.session) error)
    | writeDone error session taken done =>
      exact before.moved (onlyMoved_writeDone session taken done)
    | @runSendFinish index packet free posted =>
      refine before.moved ⟨rfl, ?_⟩
      simp only [places, coe_posted posted, ← Multiset.coe_add, Multiset.coe_singleton,
        ← Multiset.singleton_add]
      abel
    | @runKeepAlive timer taken =>
      have kept : Accounted { c with keepAliveTimer := timer } := before.moved ⟨rfl, rfl⟩
      have sent := accounted_accept kept ((uint32Bytes 4).take (readUint32 (uint32Bytes 4)))
        true 0
      exact sent.moved ⟨rfl, rfl⟩
    | destroy unused =>
      refine before.moved ⟨rfl, ?_⟩
      simp only [places, destroy, ← Multiset.coe_add, Multiset.coe_nil]
      abel
    | _ => contradiction

/-- In every run every packet accepted is in exactly one place. -/
theorem packets_conserved (run : Reach (step net maxPacketSize) always {} c) : c.Conserved := by
  have inv : ∃ p, Sound net p c ∧ c.Accounted := by
    refine reach_invariant (fun c => ∃ p, Sound net p c ∧ c.Accounted)
      ⟨.idle, sound_initial net, ⟨rfl, rfl⟩⟩ ?_ run
    rintro s e t ⟨p, sound, before⟩ _ moved
    obtain ⟨q, follows⟩ := step_follows sound moved
    exact ⟨q, follows.sound, step_accounted sound before moved⟩
  obtain ⟨p, _, accounted⟩ := inv
  exact accounted.conserved

def sendsAcrossRetry : List ClientEvent :=
  [.sendAsync (uint32Bytes 4) 1] ++ failedConnect ++
    [.sendCopyAsync (uint32Bytes 4) 2, .retryExpires, .runRetry, .connectDone none,
      .writeDone none, .runNotification 0, .runSendFinish 0, .delegateReturned,
      .writeDone (some .connectionReset), .headerRead (some .eof) 0, .runDisconnected,
      .delegateReturned]

theorem conserved_across_retry : ∃ c, Reach (step localhost 0x80000) always {} c ∧
    c.finished.length = 1 ∧ c.failedDataQueue.length = 1 ∧ c.Conserved := by
  obtain ⟨c, ran⟩ : ∃ c, exec (step localhost 0x80000) {} sendsAcrossRetry = some c :=
    Option.isSome_iff_exists.mp (by decide +kernel)
  have lengths : (exec (step localhost 0x80000) {} sendsAcrossRetry).all (fun c =>
      c.finished.length = 1 ∧ c.failedDataQueue.length = 1) = true := by decide +kernel
  rw [ran] at lengths
  obtain ⟨finished, failed⟩ := of_decide_eq_true lengths
  exact ⟨c, exec_reach ran, finished, failed, packets_conserved (exec_reach ran)⟩

end Client

end LaluneServer.NetLib
