import LaluneServer.NetLib.ClientLedger

/- The order of the packets of a client over all its connections: the queue of the
   session and behind it failed_data_queue. Packets keep that order as long as none is
   accepted while a closed session still holds packets, because such a packet enters
   failed_data_queue before those of the session do. -/
namespace LaluneServer.NetLib
open DeadlineTimer Transition

def OwnerCall.written : OwnerCall → Option NetlibPacket
  | .postSendFinish packet => some packet
  | _ => none

namespace Client
variable {Address : Type*} {net : Addresses Address} {maxPacketSize : Nat} {b c d : Client Address}
  {p : Phase} {e : ClientEvent}

def line (c : Client Address) : List NetlibPacket :=
  sessionPackets c.connectedSession ++ c.failedDataQueue

def reported (c : Client Address) : ClientEvent → List NetlibPacket
  | .writeDone error =>
    match c.connectedSession.bind fun s => s.takeWrite.bind fun s => s.tcpSendAsyncFinished error with
    | some result => result.2.filterMap OwnerCall.written
    | none => []
  | _ => []

def handedOver (c : Client Address) : Prop :=
  ∀ s ∈ c.connectedSession, s.isConnected = true ∨ s.asyncSendQueue = []

/-- SendAsync, SendCopyAsync and the keep-alive come only when the packets of a closed
    session have been handed over. -/
def sendsBehindLine (c : Client Address) : ClientEvent → Prop
  | .sendAsync .. | .sendCopyAsync .. | .runKeepAlive => c.handedOver
  | _ => True

instance (c : Client Address) : Decidable c.handedOver :=
  inferInstanceAs (Decidable (∀ _ ∈ _, _))

instance (c : Client Address) : (e : ClientEvent) → Decidable (c.sendsBehindLine e)
  | .sendAsync .. | .sendCopyAsync .. | .runKeepAlive => inferInstanceAs (Decidable c.handedOver)
  | .connectAsync .. | .disconnect | .disableReconnect | .enableReconnect _ | .resetFailedData
  | .connectDone _ | .headerRead .. | .bodyRead .. | .recvHandlerReturned | .writeDone _
  | .runSendFinish _ | .runDisconnected | .setWillReconnect _ | .delegateReturned
  | .runNotification _ | .keepAliveExpires | .runKeepAliveAborted | .retryExpires | .runRetry | .runRetryAborted
  | .destroy => isTrue trivial

/-- Packets of the session and of failed_data_queue are not waiting at the same time. -/
def Apart (c : Client Address) : Prop :=
  ∀ s, c.connectedSession = some s →
    c.failedDataQueue = [] ∨ (s.isConnected = false ∧ s.asyncSendQueue = [])

structure MovesUp (posted : List NetlibPacket) (c d : Client Address) : Prop where
  accepted : d.accepted = c.accepted
  apart : d.Apart
  line : (posted ++ d.line).Sublist c.line

structure Shifts (posted : List NetlibPacket) (c d : Client Address) : Prop where
  accepted : d.accepted = c.accepted
  apart : d.Apart
  line : posted ++ d.line = c.line

/-- A packet joins the end of the line. -/
structure Joins (c d : Client Address) : Prop where
  apart : d.Apart
  joined : ∃ packet, d.accepted = c.accepted ++ [packet] ∧ d.line = c.line ++ [packet]

theorem SameQueues.line (same : SameQueues c d) : d.line = c.line := by
  unfold Client.line
  rw [same.sessionPackets, same.failedDataQueue]

theorem SameQueues.apart (same : SameQueues c d) (apart : c.Apart) : d.Apart := by
  intro t session
  rw [same.failedDataQueue]
  rcases same.session with ⟨_, none⟩ | ⟨s, u, before, after, queue, open_before⟩
  · rw [none] at session
    contradiction
  · obtain rfl := Option.some.inj (after.symm.trans session)
    refine (apart s before).imp_right ?_
    rintro ⟨closed, empty⟩
    refine ⟨?_, queue.trans empty⟩
    cases still : u.isConnected
    · rfl
    · rw [open_before still] at closed
      contradiction

theorem Shifts.movesUp {posted : List NetlibPacket} (shifts : Shifts posted c d) :
    MovesUp posted c d := by
  refine ⟨shifts.accepted, shifts.apart, ?_⟩
  rw [shifts.line]

theorem SameQueues.shifts (same : SameQueues c d) (apart : c.Apart) : Shifts [] c d :=
  ⟨same.accepted, same.apart apart, by rw [List.nil_append, same.line]⟩

theorem Shifts.sameQueues {posted : List NetlibPacket} (first : Shifts posted c d)
    {f : Client Address} (same : SameQueues d f) : Shifts posted c f :=
  ⟨same.accepted.trans first.accepted, same.apart first.apart, by rw [same.line]; exact first.line⟩

theorem applySession_sendAsync_queues (c : Client Address) (s : TcpSession)
    (packet : NetlibPacket) : ∃ t, (c.applySession (s.sendAsync packet)).connectedSession = some t ∧
      t.asyncSendQueue = s.asyncSendQueue ++ [packet] ∧
      (c.applySession (s.sendAsync packet)).failedDataQueue = c.failedDataQueue ∧
      (c.applySession (s.sendAsync packet)).accepted = c.accepted := by
  by_cases empty : s.asyncSendQueue = []
  · rw [TcpSession.sendAsync_first empty]
    exact ⟨_, rfl, by rw [empty]; rfl, rfl, rfl⟩
  · rw [TcpSession.sendAsync_behind empty]
    exact ⟨_, rfl, rfl, rfl, rfl⟩

/-- A packet that fails at once goes behind the others, because the session is closed
    and empty. -/
theorem joins_sendFailed (closed : ∀ s, c.connectedSession = some s →
      s.isConnected = false ∧ s.asyncSendQueue = []) (packet : NetlibPacket) :
    (c.sendFailedHandler packet).Apart ∧
      (c.sendFailedHandler packet).accepted = c.accepted ∧
      (c.sendFailedHandler packet).line = c.line ++ [packet] := by
  refine ⟨fun s session => Or.inr (closed s session), rfl, ?_⟩
  show sessionPackets c.connectedSession ++ (c.failedDataQueue ++ [packet]) = _
  rw [← List.append_assoc]
  rfl

theorem joins_sendPacket (apart : c.Apart) (handed : c.handedOver) (packet : NetlibPacket) :
    (c.sendPacket packet).Apart ∧ (c.sendPacket packet).accepted = c.accepted ∧
      (c.sendPacket packet).line = c.line ++ [packet] := by
  unfold sendPacket
  cases session : c.connectedSession with
  | none =>
    exact joins_sendFailed (fun s other => by rw [session] at other; contradiction) packet
  | some s =>
    simp only
    split
    · rename_i connected
      have empty : c.failedDataQueue = [] := by
        rcases apart s session with empty | ⟨closed, _⟩
        · exact empty
        · rw [connected] at closed
          contradiction
      obtain ⟨t, after, queue, failed, accepted⟩ := applySession_sendAsync_queues c s packet
      refine ⟨fun _ _ => Or.inl (failed.trans empty), accepted, ?_⟩
      unfold line
      rw [after, failed, session, empty]
      simp [sessionPackets, queue]
    · rename_i disconnected
      have closed : s.isConnected = false := by simpa using disconnected
      refine joins_sendFailed (fun other found => ?_) packet
      obtain rfl := Option.some.inj (session.symm.trans found)
      refine ⟨closed, (handed s session).resolve_left ?_⟩
      rw [closed]
      decide

theorem joins_accept (apart : c.Apart) (handed : c.handedOver) (data : Bytes) (copy : Bool)
    (pHint : BitVec 64) : Joins c (c.accept data copy pHint) := by
  obtain ⟨packet, shape, _⟩ := accept_spec c data copy pHint
  obtain ⟨still, accepted, joined⟩ :=
    joins_sendPacket (c := { c with accepted := c.accepted ++ [packet] }) apart handed packet
  rw [shape]
  exact ⟨still, packet, accepted, joined⟩

theorem shifts_writeDone {s t : TcpSession} (apart : c.Apart)
    (session : c.connectedSession = some s) (taken : s.takeWrite = some t) {error : Outcome}
    {r : SessionResult} (done : t.tcpSendAsyncFinished error = some r) :
    Shifts (r.2.filterMap OwnerCall.written) c (c.applySession r) := by
  have queue := TcpSession.takeWrite_asyncSendQueue taken
  have status : t.isConnected = s.isConnected := by
    obtain ⟨_, _, _, rfl⟩ := TcpSession.takeWrite_cases taken
    rfl
  rcases TcpSession.tcpSendAsyncFinished_cases done with
    rfl | ⟨_, connected, front, rest, packets, finish⟩
  · have silent : ((t.closeSessionAndHandleError .clientRecvError error).2 ++
        [OwnerCall.decreasePendingOpsCount]).filterMap OwnerCall.written = [] := by
      unfold TcpSession.closeSessionAndHandleError
      split <;> rfl
    rw [applySession_writeFailed]
    simp only [silent]
    exact ((sameQueues_closeInto (t := { t with isConnected := false }) session queue (by rfl) t
      .clientRecvError error).trans (sameQueues_decrease _)).shifts apart
  · have empty : c.failedDataQueue = [] := by
      rcases apart s session with empty | ⟨closed, _⟩
      · exact empty
      · rw [← status, connected] at closed
        contradiction
    rw [queue] at packets
    rcases finish with ⟨none, rfl⟩ | ⟨next, others, more, rfl⟩
    · refine ⟨rfl, fun _ _ => Or.inl empty, ?_⟩
      simp [line, applySession, ownerCall, OwnerCall.written, sessionPackets, session, packets,
        none, empty]
    · refine ⟨rfl, fun _ _ => Or.inl empty, ?_⟩
      simp [line, applySession, ownerCall, OwnerCall.written, sessionPackets, session, packets,
        more, empty, increasePendingOpsCount]

theorem resendFailedData_queues {packets : List NetlibPacket} {s : TcpSession}
    (failed : c.failedDataQueue = packets) (session : c.connectedSession = some s) :
    ∃ t, (resendFailedData packets c).connectedSession = some t ∧
      t.asyncSendQueue = s.asyncSendQueue ++ packets ∧
      (resendFailedData packets c).failedDataQueue = [] ∧
      (resendFailedData packets c).accepted = c.accepted := by
  induction packets generalizing c s with
  | nil => exact ⟨s, session, by simp, failed, rfl⟩
  | cons packet rest ih =>
    unfold resendFailedData
    rw [session]
    simp only
    obtain ⟨t, after, queue, kept, accepted⟩ :=
      applySession_sendAsync_queues { c with failedDataQueue := rest } s packet
    obtain ⟨u, final, order, none, same⟩ := ih kept after
    refine ⟨u, final, ?_, none, same.trans accepted⟩
    rw [order, queue, List.append_assoc]
    rfl

theorem sameQueues_markConnected (c : Client Address) : SameQueues c c.markConnected := by
  obtain ⟨will, first, notifications, shape⟩ := markConnected_shape c
  rw [shape]
  exact .of_session rfl rfl rfl rfl rfl rfl

theorem shifts_connectedHandler {s : TcpSession} (session : c.connectedSession = some s)
    (fresh : s.asyncSendQueue = []) : Shifts [] c c.connectedHandler := by
  have marked := sameQueues_markConnected c
  unfold connectedHandler
  rcases marked.session with ⟨none, _⟩ | ⟨r, t, before, after, queue, _⟩
  · rw [session] at none
    contradiction
  · obtain rfl := Option.some.inj (session.symm.trans before)
    obtain ⟨u, final, order, empty, accepted⟩ := resendFailedData_queues (c := c.markConnected)
      rfl after
    have moved : Shifts [] c (resendFailedData c.markConnected.failedDataQueue
        c.markConnected) := by
      refine ⟨accepted.trans marked.accepted, fun _ _ => Or.inl empty, ?_⟩
      unfold line
      rw [final, empty, session]
      simp [sessionPackets, order, queue, fresh, marked.failedDataQueue]
    unfold startTransfers
    rw [after]
    simp only
    split
    · exact moved.sameQueues (.of_session rfl rfl rfl rfl rfl rfl)
    · exact moved

theorem shifts_connectDone (apart : c.Apart) (session : c.connectedSession = none)
    (error : Outcome) : Shifts [] c (c.tcpConnectedHandler error) := by
  unfold tcpConnectedHandler
  refine Shifts.sameQueues ?_ (sameQueues_decrease _)
  cases error with
  | some code => exact (sameQueues_handleError c _ _).shifts apart
  | none =>
    simp only
    split
    · exact (SameQueues.refl c).shifts apart
    · rw [session]
      have moved := shifts_connectedHandler (c := c.applySession (TcpSession.start {}))
        (s := (TcpSession.start {}).1) rfl rfl
      refine ⟨moved.accepted, moved.apart, ?_⟩
      have same : (c.applySession (TcpSession.start {})).line = c.line := by
        unfold line
        rw [session]
        rfl
      rw [← same]
      exact moved.line

theorem shifts_afterDisconnected (will : Bool) (packets : sessionPackets c.connectedSession = []) :
    Shifts [] c (c.afterDisconnected net will) := by
  have dropped : Shifts [] c { c with connectedSession := none } := by
    refine ⟨rfl, fun s impossible => by contradiction, ?_⟩
    unfold line
    rw [packets]
    rfl
  unfold afterDisconnected
  simp only
  split
  · split
    · exact dropped.sameQueues (.of_session rfl rfl rfl rfl rfl rfl)
    · refine Shifts.sameQueues ?_ (sameQueues_connectAsync _)
      exact dropped.sameQueues (.of_session rfl rfl rfl rfl rfl rfl)
  · exact dropped.sameQueues (.of_session rfl rfl rfl rfl rfl rfl)

/-- process_failed_packets puts the queue of the session behind failed_data_queue; one of
    the two is empty. -/
theorem shifts_delegateReturned (sound : Sound net p c) (apart : c.Apart) {r : Running}
    (running : c.running = some r) : Shifts [] c (c.delegateReturned net r) := by
  cases r with
  | sendFinish packet =>
    have freed : SameQueues c { c with running := none } := .of_session rfl rfl rfl rfl rfl rfl
    exact (freed.trans (sameQueues_decrease _)).shifts apart
  | disconnected will =>
    obtain ⟨session, failed, shape, origin⟩ := processFailedPackets_shape { c with running := none }
    show Shifts [] c ({ c with running := none }.processFailedPackets.afterDisconnected net will)
    rw [shape]
    rcases origin with ⟨before, rfl, rfl⟩ | ⟨s, before, rfl, rfl⟩
    · have before : c.connectedSession = none := before
      have moved := @shifts_afterDisconnected _ net { c with
        running := none, connectedSession := none
        failedDataQueue := c.failedDataQueue ++ [] } will rfl
      refine ⟨moved.accepted, moved.apart, moved.line.trans ?_⟩
      simp [line, before]
    · have before : c.connectedSession = some s := before
      have moved := @shifts_afterDisconnected _ net { c with
        running := none, connectedSession := some { s with asyncSendQueue := [] }
        failedDataQueue := c.failedDataQueue ++ s.asyncSendQueue } will rfl
      refine ⟨moved.accepted, moved.apart, moved.line.trans ?_⟩
      rcases apart s before with empty | ⟨_, empty⟩
      · simp [line, before, sessionPackets, empty]
      · simp [line, before, sessionPackets, empty]
  | reconnectFailed will =>
    have session := session_of_reconnectFailed sound running
    have moved := @shifts_afterDisconnected _ net { c with running := none } will
      (by show sessionPackets c.connectedSession = []; rw [session]; rfl)
    exact ⟨moved.accepted, moved.apart, moved.line⟩

theorem handler_line (sound : Sound net p c) (apart : c.Apart) (behind : c.sendsBehindLine e)
    (handler : e.isHandler = true) (moved : step net maxPacketSize c e = some d) :
    Shifts (c.reported e) c d ∨ (e = .runKeepAlive ∧ c.reported e = [] ∧ Joins c d) := by
  cases busy : e.movesPackets with
  | false =>
    have silent : c.reported e = [] := by
      cases e <;> first | rfl | contradiction
    rw [silent]
    exact Or.inl ((step_sameQueues busy moved).shifts apart)
  | true =>
    cases occurs_of_step moved with
    | delegateReturned running =>
      exact Or.inl (shifts_delegateReturned sound apart running)
    | @connectDone error first others pending =>
      obtain rfl := connecting_of_connects sound (by rw [pending]; simp)
      have done := shifts_connectDone (c := { c with connects := others }) apart
        sound.phase.session error
      exact Or.inl ⟨done.accepted, done.apart, done.line⟩
    | @writeDone error s t r session taken done =>
      have posts : c.reported (.writeDone error) = r.2.filterMap OwnerCall.written := by
        simp only [reported, session, taken, done, Option.bind_some]
      rw [posts]
      exact Or.inl (shifts_writeDone apart session taken done)
    | runSendFinish index free posted => exact Or.inl ⟨rfl, apart, rfl⟩
    | @runKeepAlive timer taken =>
      have joins := joins_accept (c := { c with keepAliveTimer := timer }) apart behind
        ((uint32Bytes 4).take (readUint32 (uint32Bytes 4))) true 0
      exact Or.inr ⟨rfl, rfl, joins.apart, joins.joined⟩
    | _ => contradiction

theorem step_line (sound : Sound net p c) (apart : c.Apart) (behind : c.sendsBehindLine e)
    (moved : step net maxPacketSize c e = some d) :
    MovesUp (c.reported e) c d ∨ (c.reported e = [] ∧ Joins c d) := by
  cases called : e.isHandler with
  | true =>
    rcases handler_line sound apart behind called moved with shifts | ⟨_, silent, joins⟩
    · exact Or.inl shifts.movesUp
    · exact Or.inr ⟨silent, joins⟩
  | false =>
    cases occurs_of_step moved with
    | sendAsync data pHint => exact Or.inr ⟨rfl, joins_accept apart behind data false pHint⟩
    | sendCopyAsync data pHint => exact Or.inr ⟨rfl, joins_accept apart behind _ true pHint⟩
    | resetFailedData =>
      refine Or.inl ⟨rfl, fun _ _ => Or.inl rfl, ?_⟩
      exact (List.append_nil (sessionPackets c.connectedSession)).symm ▸
        List.sublist_append_left _ _
    | destroy unused =>
      refine Or.inl ⟨rfl, fun _ _ => Or.inl rfl, ?_⟩
      exact (List.append_nil (sessionPackets c.connectedSession)).symm ▸
        List.sublist_append_left _ _
    | connectAsync | disconnect | disableReconnect | enableReconnect | setWillReconnect =>
      exact Or.inl ((step_sameQueues rfl moved).shifts apart).movesUp
    | _ => contradiction

end Client

structure Writer (Address : Type*) where
  client : Client Address := {}
  written : List NetlibPacket := []

namespace Writer
variable {Address : Type*} (net : Addresses Address) (maxPacketSize : Nat)

def step (w : Writer Address) (e : ClientEvent) : Option (Writer Address) :=
  (w.client.step net maxPacketSize e).map fun client =>
    { client := client, written := w.written ++ w.client.reported e }

def sendsBehindLine (w : Writer Address) (e : ClientEvent) : Prop := w.client.sendsBehindLine e

instance (w : Writer Address) (e : ClientEvent) : Decidable (w.sendsBehindLine e) :=
  inferInstanceAs (Decidable (w.client.sendsBehindLine e))

structure Fifo (w : Writer Address) : Prop where
  part : w.written.Sublist w.client.accepted
  order : (w.written.map NetlibPacket.stamp).Pairwise (· < ·)

variable {net maxPacketSize} {w u : Writer Address} {e : ClientEvent}

/-- The packets written and those that wait are in the order of acceptance. -/
structure InLine (w : Writer Address) : Prop where
  order : (w.written ++ w.client.line).Sublist w.client.accepted
  apart : w.client.Apart

theorem inLine_step {p : Phase} (sound : Client.Sound net p w.client) (inv : InLine w)
    (behind : w.sendsBehindLine e) (moved : w.step net maxPacketSize e = some u) : InLine u := by
  obtain ⟨d, stepped, rfl⟩ := Option.map_eq_some_iff.mp moved
  rcases Client.step_line sound inv.apart behind stepped with up | ⟨silent, joins⟩
  · refine ⟨?_, up.apart⟩
    show ((w.written ++ w.client.reported e) ++ d.line).Sublist d.accepted
    rw [up.accepted, List.append_assoc]
    exact (List.Sublist.append_left up.line w.written).trans inv.order
  · obtain ⟨packet, accepted, line⟩ := joins.joined
    refine ⟨?_, joins.apart⟩
    show ((w.written ++ w.client.reported e) ++ d.line).Sublist d.accepted
    rw [silent, List.append_nil, accepted, line, ← List.append_assoc]
    exact List.Sublist.append_right inv.order [packet]

theorem inLine_fifo (inv : InLine w) (accounted : w.client.Accounted) : w.Fifo := by
  have part : w.written.Sublist w.client.accepted :=
    (List.sublist_append_left _ _).trans inv.order
  refine ⟨part, ?_⟩
  have stamps := part.map NetlibPacket.stamp
  rw [accounted.numbered] at stamps
  exact List.Pairwise.sublist stamps List.pairwise_lt_range

/-- In every run without a packet accepted between the close of a session and the
    hand-over of its packets, packets are written in the order of acceptance. -/
theorem written_in_order_while_handed_over
    (run : Reach (step net maxPacketSize) sendsBehindLine {} w) : w.Fifo := by
  have inv : (∃ p, Client.Sound net p w.client) ∧ w.client.Accounted ∧ InLine w := by
    refine reach_invariant (fun w => (∃ p, Client.Sound net p w.client) ∧
      w.client.Accounted ∧ InLine w) ?_ ?_ run
    · exact ⟨⟨.idle, Client.sound_initial net⟩, ⟨rfl, rfl⟩, List.Sublist.refl _,
        fun _ none => by contradiction⟩
    · rintro v e t ⟨⟨p, sound⟩, accounted, inv⟩ behind moved
      obtain ⟨d, stepped, rfl⟩ := Option.map_eq_some_iff.mp moved
      obtain ⟨q, follows⟩ := Client.step_follows sound stepped
      exact ⟨⟨q, follows.sound⟩, Client.step_accounted sound accounted stepped,
        inLine_step sound inv behind moved⟩
  exact inLine_fifo inv.2.2 inv.2.1

def dropped : List ClientEvent :=
  [.connectAsync (.ip "127.0.0.1") 80 0, .connectDone none, .runNotification 0,
    .sendAsync (uint32Bytes 4) 7, .headerRead (some .eof) 0]

def reconnected : List ClientEvent :=
  [.writeDone (some .connectionReset), .runDisconnected, .delegateReturned, .connectDone none]

theorem order_kept_over_reconnect : ∃ w, Reach (step Client.localhost 0x80000) sendsBehindLine {} w ∧
    w.written.map NetlibPacket.stamp = [0, 1] ∧ w.Fifo := by
  obtain ⟨w, run, written⟩ := execWithin_any (step Client.localhost 0x80000) sendsBehindLine {}
    (dropped ++ reconnected ++ [.sendCopyAsync (uint32Bytes 4) 8, .writeDone none, .writeDone none])
    (fun w => decide (w.written.map NetlibPacket.stamp = [0, 1])) (by decide +kernel)
  exact ⟨w, run, of_decide_eq_true written, written_in_order_while_handed_over run⟩

/-- A packet sent between the close and disconnected() overtakes the one before it. -/
theorem order_lost_over_reconnect : ¬ ∀ w,
    Reach (step Client.localhost 0x80000) (fun _ _ => True) {} w → w.Fifo := by
  intro all
  obtain ⟨w, run, written⟩ := execWithin_any (step Client.localhost 0x80000) (fun _ _ => True) {}
    (dropped ++ [.sendAsync (uint32Bytes 4) 8] ++ reconnected ++
      [.writeDone none, .writeDone none])
    (fun w => decide (w.written.map NetlibPacket.stamp = [1, 0])) (by decide +kernel)
  have order := (all w run).order
  rw [of_decide_eq_true written] at order
  simp at order

end Writer

end LaluneServer.NetLib
