import LaluneServer.NetLib.ClientPackets

/- The ledger of a client: the packets accepted, finished and released, and the callbacks
   posted. Handlers add to it in few places, and the one that opens a session posts
   connected() or reconnected(). -/
namespace LaluneServer.NetLib
open DeadlineTimer

/-- The handlers that the io_service runs, for a delegate that leaves its flag as it is. The
    public functions and the destructor are called by the owner. -/
def ClientEvent.isHandler : ClientEvent → Bool
  | .connectAsync .. | .disconnect | .disableReconnect | .enableReconnect _ | .sendAsync ..
  | .sendCopyAsync .. | .resetFailedData | .setWillReconnect _ | .destroy => false
  | _ => true

namespace Client
variable {Address : Type*} {net : Addresses Address} {maxPacketSize : Nat} {b c d : Client Address}
  {e : ClientEvent}

def connectionPosted (c : Client Address) : Prop :=
  Notification.connected ∈ c.notifications ∨ Notification.reconnected ∈ c.notifications

def reportsConnection (c : Client Address) : ClientEvent → Bool
  | .runNotification index =>
    c.notifications[index]? = some .connected || c.notifications[index]? = some .reconnected
  | _ => false

structure SameLedger (c d : Client Address) : Prop where
  accepted : d.accepted = c.accepted
  finished : d.finished = c.finished
  released : d.released = c.released
  notifications : d.notifications = c.notifications
  session : c.connectedSession = none → d.connectedSession = none

theorem SameLedger.refl (c : Client Address) : SameLedger c c := ⟨rfl, rfl, rfl, rfl, id⟩

theorem SameLedger.trans (first : SameLedger b c) (second : SameLedger c d) : SameLedger b d :=
  ⟨second.accepted.trans first.accepted, second.finished.trans first.finished,
    second.released.trans first.released, second.notifications.trans first.notifications,
    second.session ∘ first.session⟩

theorem sameLedger_decrease (c : Client Address) : SameLedger c c.decreasePendingOpsCount := by
  unfold decreasePendingOpsCount
  simp only
  split
  · exact ⟨rfl, rfl, rfl, rfl, id⟩
  · exact ⟨rfl, rfl, rfl, rfl, id⟩

theorem sameLedger_handleError (c : Client Address) (error : NetLibError) (internal : Outcome) :
    SameLedger c (c.handleError error internal) := by
  unfold handleError
  split
  · exact ⟨rfl, rfl, rfl, rfl, id⟩
  · exact .refl c

theorem sameLedger_ownerCall (c : Client Address) (call : OwnerCall) :
    SameLedger c (c.ownerCall call) := by
  cases call with
  | increasePendingOpsCount => exact ⟨rfl, rfl, rfl, rfl, id⟩
  | decreasePendingOpsCount => exact sameLedger_decrease c
  | handleError error internal => exact sameLedger_handleError c error internal
  | postSendFinish packet => exact ⟨rfl, rfl, rfl, rfl, id⟩
  | recvFinishHandler data => exact .refl c
  | sendFailedHandler packet => exact ⟨rfl, rfl, rfl, rfl, id⟩

theorem sameLedger_ownerCalls (calls : List OwnerCall) (c : Client Address) :
    SameLedger c (calls.foldl ownerCall c) := by
  induction calls generalizing c with
  | nil => exact .refl c
  | cons call calls ih => exact (sameLedger_ownerCall c call).trans (ih _)

theorem sameLedger_applySession {s : TcpSession} (session : c.connectedSession = some s)
    (result : SessionResult) : SameLedger c (c.applySession result) := by
  have kept : SameLedger c { c with connectedSession := some result.1 } := by
    refine ⟨rfl, rfl, rfl, rfl, ?_⟩
    intro none
    rw [session] at none
    contradiction
  exact kept.trans (sameLedger_ownerCalls result.2 _)

theorem sameLedger_sendPacket (c : Client Address) (packet : NetlibPacket) :
    SameLedger c (c.sendPacket packet) := by
  unfold sendPacket
  split
  · rename_i s session
    split
    · exact sameLedger_applySession session _
    · exact ⟨rfl, rfl, rfl, rfl, id⟩
  · exact ⟨rfl, rfl, rfl, rfl, id⟩

theorem sameLedger_connectAsync (c : Client Address) : SameLedger c (c.connectAsync net) := by
  unfold connectAsync tcpConnectAsync
  split
  · exact .refl c
  · split
    · exact ⟨rfl, rfl, rfl, rfl, id⟩
    · refine SameLedger.trans ?_ (sameLedger_decrease _)
      refine SameLedger.trans ?_ (sameLedger_handleError _ _ _)
      exact ⟨rfl, rfl, rfl, rfl, id⟩

theorem sameLedger_startConnect (c : Client Address) (destination : Destination)
    (port : BitVec 16) (flags : BitVec 64) :
    SameLedger c (c.startConnect net destination port flags) := by
  unfold startConnect
  split
  · refine SameLedger.trans ?_ (sameLedger_connectAsync _)
    cases destination <;> exact ⟨rfl, rfl, rfl, rfl, id⟩
  · exact .refl c

theorem sameLedger_resendFailedData (packets : List NetlibPacket) (c : Client Address) :
    SameLedger c (resendFailedData packets c) := by
  induction packets generalizing c with
  | nil => exact .refl c
  | cons packet rest ih =>
    unfold resendFailedData
    split
    · exact .refl c
    · rename_i s session
      have taken : SameLedger c { c with failedDataQueue := rest } := ⟨rfl, rfl, rfl, rfl, id⟩
      have sent := @sameLedger_applySession _ { c with failedDataQueue := rest } s session
        (s.sendAsync packet)
      exact (taken.trans sent).trans (ih _)

theorem sameLedger_startTransfers (c : Client Address) : SameLedger c c.startTransfers := by
  unfold startTransfers
  split
  · exact .refl c
  · have resent := sameLedger_resendFailedData c.failedDataQueue c
    simp only
    split
    · exact resent.trans ⟨rfl, rfl, rfl, rfl, id⟩
    · exact resent

theorem sameLedger_processFailedPackets (c : Client Address) :
    SameLedger c c.processFailedPackets := by
  unfold processFailedPackets
  split
  · rename_i s session
    exact sameLedger_applySession session _
  · exact .refl c

theorem sameLedger_afterDisconnected (c : Client Address) (will : Bool) :
    SameLedger c (c.afterDisconnected net will) := by
  have dropped : SameLedger c { c with connectedSession := none } :=
    ⟨rfl, rfl, rfl, rfl, fun _ => rfl⟩
  unfold afterDisconnected
  refine dropped.trans ?_
  generalize { c with connectedSession := none } = d
  simp only
  split
  · split
    · exact ⟨rfl, rfl, rfl, rfl, id⟩
    · refine SameLedger.trans ?_ (sameLedger_connectAsync _)
      exact ⟨rfl, rfl, rfl, rfl, id⟩
  · exact ⟨rfl, rfl, rfl, rfl, id⟩

theorem sameLedger_delegateReturned (c : Client Address) (r : Running) :
    SameLedger c (c.delegateReturned net r) := by
  have returned : SameLedger c { c with running := none } := ⟨rfl, rfl, rfl, rfl, id⟩
  cases r with
  | sendFinish packet => exact returned.trans (sameLedger_decrease _)
  | disconnected will =>
    exact (returned.trans (sameLedger_processFailedPackets _)).trans
      (sameLedger_afterDisconnected _ will)
  | reconnectFailed will => exact returned.trans (sameLedger_afterDisconnected _ will)

theorem accept_ledger (c : Client Address) (data : Bytes) (copy : Bool) (pHint : BitVec 64) :
    ∃ packet, (c.accept data copy pHint).accepted = c.accepted ++ [packet] ∧
      SameLedger { c with accepted := c.accepted ++ [packet] } (c.accept data copy pHint) := by
  obtain ⟨packet, shape, _⟩ := accept_spec c data copy pHint
  have kept := sameLedger_sendPacket { c with accepted := c.accepted ++ [packet] } packet
  rw [← shape] at kept
  exact ⟨packet, kept.accepted, kept⟩

structure Recorded (e : ClientEvent) (c d : Client Address) : Prop where
  accepted : d.accepted.length = c.accepted.length + if e = .runKeepAlive then 1 else 0
  finished : c.finished ⊆ d.finished
  released : d.released = c.released
  connection : c.connectedSession = none ∨ c.connectionPosted →
    c.reportsConnection e = true ∨ d.connectedSession = none ∨ d.connectionPosted

theorem SameLedger.recorded (same : SameLedger c d) (e : ClientEvent) (other : e ≠ .runKeepAlive) :
    Recorded e c d := by
  refine ⟨?_, ?_, same.released, ?_⟩
  · rw [same.accepted, if_neg other, Nat.add_zero]
  · rw [same.finished]
    exact List.Subset.refl _
  · rintro (none | posted)
    · exact Or.inr (Or.inl (same.session none))
    · refine Or.inr (Or.inr ?_)
      unfold connectionPosted
      rw [same.notifications]
      exact posted

theorem Recorded.after (second : Recorded e c d) (first : SameLedger b c) : Recorded e b d := by
  have posted : b.connectionPosted → c.connectionPosted := by
    unfold connectionPosted
    rw [first.notifications]
    exact id
  have reports : c.reportsConnection e = b.reportsConnection e := by
    unfold reportsConnection
    rw [first.notifications]
  refine ⟨?_, ?_, second.released.trans first.released, ?_⟩
  · rw [← first.accepted]
    exact second.accepted
  · rw [← first.finished]
    exact second.finished
  · rw [← reports]
    exact fun before => second.connection (before.imp first.session posted)

theorem recorded_connectDone (c : Client Address) (error : Outcome) :
    Recorded (.connectDone error) c (c.tcpConnectedHandler error) := by
  have connected : Recorded (.connectDone error) c
      (c.applySession (TcpSession.start {})).connectedHandler.decreasePendingOpsCount := by
    have opened : (c.applySession (TcpSession.start {})).notifications = c.notifications := rfl
    have marked : ∀ b : Client Address, b.markConnected.connectionPosted ∧
        b.markConnected.accepted = b.accepted ∧ b.markConnected.finished = b.finished ∧
        b.markConnected.released = b.released := by
      intro b
      unfold markConnected connectionPosted
      cases b.enableReconnect <;>
        · simp only [Bool.false_eq_true, ↓reduceIte]
          split <;> simp
    obtain ⟨posted, accepted, finished, released⟩ :=
      marked (c.applySession (TcpSession.start {}))
    have kept := (sameLedger_startTransfers
      (c.applySession (TcpSession.start {})).markConnected).trans (sameLedger_decrease _)
    refine ⟨?_, ?_, ?_, fun _ => Or.inr (Or.inr ?_)⟩
    · exact congrArg List.length (kept.accepted.trans accepted)
    · intro packet member
      have same := kept.finished.trans finished
      exact same ▸ member
    · exact kept.released.trans released
    · unfold connectionPosted at posted ⊢
      have same := kept.notifications
      exact same ▸ posted
  unfold tcpConnectedHandler
  cases error with
  | some code =>
    exact ((sameLedger_handleError c _ _).trans (sameLedger_decrease _)).recorded _ (by simp)
  | none =>
    simp only
    split
    · exact (sameLedger_decrease c).recorded _ (by simp)
    · split
      · split
        · exact (sameLedger_decrease c).recorded _ (by simp)
        · exact connected
      · exact connected

theorem recorded_runKeepAlive (c : Client Address) (timer : Timer) :
    Recorded .runKeepAlive c { c with keepAliveTimer := timer }.sendKeepAlive := by
  obtain ⟨packet, accepted, kept⟩ := accept_ledger { c with keepAliveTimer := timer }
    ((uint32Bytes 4).take (readUint32 (uint32Bytes 4))) true 0
  unfold sendKeepAlive sendCopyAsync sendKeepAliveInFuture
  generalize Client.accept _ _ _ _ = d at accepted kept ⊢
  have finished : d.finished = c.finished := kept.finished
  have notifications : d.notifications = c.notifications := kept.notifications
  refine ⟨?_, ?_, kept.released, ?_⟩
  · show d.accepted.length = _
    rw [accepted, List.length_append]
    rfl
  · show c.finished ⊆ d.finished
    rw [finished]
    exact List.Subset.refl _
  · rintro (none | posted)
    · exact Or.inr (Or.inl (kept.session none))
    · refine Or.inr (Or.inr ?_)
      unfold connectionPosted at posted ⊢
      simp only
      rw [notifications]
      exact posted

theorem recorded_runNotification (c : Client Address) (index : Nat) :
    Recorded (.runNotification index) c
      { c with notifications := c.notifications.eraseIdx index } := by
  refine ⟨rfl, List.Subset.refl _, rfl, ?_⟩
  rintro (none | posted)
  · exact Or.inr (Or.inl none)
  · by_cases runs : c.reportsConnection (.runNotification index) = true
    · exact Or.inl runs
    · simp only [reportsConnection, Bool.or_eq_true, decide_eq_true_eq, not_or] at runs
      refine Or.inr (Or.inr ?_)
      have stays : ∀ n : Notification, c.notifications[index]? ≠ some n → n ∈ c.notifications →
          n ∈ c.notifications.eraseIdx index := by
        intro n other member
        obtain ⟨i, found⟩ := List.mem_iff_getElem?.mp member
        refine List.mem_eraseIdx_iff_getElem?.mpr ⟨i, ?_, found⟩
        rintro rfl
        exact other found
      exact posted.imp (stays _ runs.1) (stays _ runs.2)

theorem step_recorded (moved : step net maxPacketSize c e = some d)
    (handler : e.isHandler = true) : Recorded e c d := by
  cases occurs_of_step moved with
  | @recvHandlerReturned s session reading =>
    exact (sameLedger_applySession session (s.tcpReceiveAsync, [])).recorded _ (by simp)
  | keepAliveExpires fired => exact ⟨rfl, List.Subset.refl _, rfl, Or.inr⟩
  | retryExpires fired => exact ⟨rfl, List.Subset.refl _, rfl, Or.inr⟩
  | @delegateReturned r running => exact (sameLedger_delegateReturned c r).recorded _ (by simp)
  | @connectDone error first others pending =>
    have taken : SameLedger c { c with connects := others } := ⟨rfl, rfl, rfl, rfl, id⟩
    exact (recorded_connectDone _ error).after taken
  | headerRead error size session reading =>
    exact (sameLedger_applySession session _).recorded _ (by simp)
  | bodyRead error rest session reading whole =>
    exact (sameLedger_applySession session _).recorded _ (by simp)
  | writeDone error session taken done =>
    exact (sameLedger_applySession session _).recorded _ (by simp)
  | runSendFinish index free posted =>
    exact ⟨rfl, List.subset_append_left _ _, rfl, Or.inr⟩
  | runDisconnected posted => exact ⟨rfl, List.Subset.refl _, rfl, Or.inr⟩
  | runNotification index posted => exact recorded_runNotification c index
  | @runKeepAlive timer taken => exact recorded_runKeepAlive c timer
  | @runKeepAliveAborted timer taken =>
    have timed : SameLedger c { c with keepAliveTimer := timer } := ⟨rfl, rfl, rfl, rfl, id⟩
    exact (timed.trans (sameLedger_decrease _)).recorded _ (by simp)
  | @runRetry timer taken =>
    have timed : SameLedger c { c with
        reconnectRetryTimer := timer, currentlyRetries := c.currentlyRetries + 1 } :=
      ⟨rfl, rfl, rfl, rfl, id⟩
    exact (timed.trans (sameLedger_connectAsync _)).recorded _ (by simp)
  | runRetryAborted taken => exact ⟨rfl, List.Subset.refl _, rfl, Or.inr⟩
  | _ => contradiction

end Client

end LaluneServer.NetLib
