import LaluneServer.NetLib.ClientSettings

/- Connection attempts after the user has cancelled. Attempts start in ConnectAsync, in the
   immediate reconnect and in the handler of reconnect_retry_timer; connect_async itself only
   looks at m_manually_disconnect, which DisableReconnect leaves alone. -/
namespace LaluneServer.NetLib
open DeadlineTimer Transition

structure Course (Address : Type*) where
  manual : Bool
  willReconnect : Bool
  enableReconnect : Bool
  retry : Timer
  connects : List (Address × BitVec 16)

def ClientEvent.cancels : ClientEvent → Bool
  | .disconnect | .disableReconnect => true
  | _ => false

def ClientEvent.connectsDone : ClientEvent → Nat
  | .connectDone _ => 1
  | _ => 0

namespace Client
variable {Address : Type*} (c d : Client Address)

def course : Course Address where
  manual := c.manuallyDisconnect
  willReconnect := c.willReconnectIfDisconnected
  enableReconnect := c.enableReconnect
  retry := c.reconnectRetryTimer
  connects := c.connects

def connectsAnew : ClientEvent → Bool
  | .connectAsync .. => decide c.acceptsConnect
  | _ => false

def attempts (e : ClientEvent) : Nat := d.connects.length + e.connectsDone - c.connects.length

end Client

structure CancelRun (Address : Type*) where
  client : Client Address := {}
  cancelled : Bool := false
  late : Nat := 0

namespace CancelRun
variable {Address : Type*} (net : Addresses Address) (maxPacketSize : Nat) (w : CancelRun Address)

def step (e : ClientEvent) : Option (CancelRun Address) :=
  (w.client.step net maxPacketSize e).map fun client =>
    { client := client
      cancelled := e.cancels || w.cancelled && ! w.client.connectsAnew e
      late :=
        if w.cancelled && ! w.client.connectsAnew e then w.late + w.client.attempts client e
        else w.late }

/-- No retry is due already when DisableReconnect comes, and what it disabled is not enabled
    again while a connect is under way. -/
def cancelsInTime : ClientEvent → Prop
  | .disableReconnect =>
    w.client.manuallyDisconnect = true ∨ w.client.reconnectRetryTimer.expired = 0
  | .enableReconnect _ => w.cancelled = true →
    w.client.manuallyDisconnect = true ∨ w.client.connects = []
  | _ => True

end CancelRun

namespace Client
variable {Address : Type*} {net : Addresses Address} {maxPacketSize : Nat} {c d : Client Address}

theorem course_of_settings (same : d.settings = c.settings) : d.course = c.course := by
  unfold course
  rw [Course.mk.injEq]
  exact ⟨congrArg Settings.manual same, congrArg Settings.willReconnect same,
    congrArg Settings.enableReconnect same, congrArg Settings.retry same,
    congrArg Settings.connects same⟩

theorem course_decrease (c : Client Address) : c.decreasePendingOpsCount.course = c.course :=
  course_of_settings (settings_decrease c)

theorem course_handleError (c : Client Address) (error : NetLibError) (internal : Outcome) :
    (c.handleError error internal).course = c.course :=
  course_of_settings (settings_handleError c error internal)

theorem course_applySession (c : Client Address) (result : SessionResult) :
    (c.applySession result).course = c.course :=
  course_of_settings (settings_applySession c result)

theorem course_accept (c : Client Address) (data : Bytes) (copy : Bool) (pHint : BitVec 64) :
    (c.accept data copy pHint).course = c.course :=
  course_of_settings (settings_accept c data copy pHint)

theorem course_startTransfers (c : Client Address) : c.startTransfers.course = c.course :=
  course_of_settings (settings_startTransfers c)

theorem course_processFailedPackets (c : Client Address) :
    c.processFailedPackets.course = c.course :=
  course_of_settings (settings_processFailedPackets c)

theorem course_markConnected (c : Client Address) : c.markConnected.course = c.course ∨
    c.enableReconnect = true ∧ c.markConnected.course = { c.course with willReconnect := true } := by
  unfold markConnected
  dsimp only
  cases enabled : c.enableReconnect with
  | false =>
    left
    simp only [Bool.false_eq_true, if_false]
    split <;> rfl
  | true =>
    right
    simp only [if_true]
    refine ⟨trivial, ?_⟩
    split <;> simp [course, enabled]

theorem course_tcpConnectedHandler (c : Client Address) (error : Outcome) :
    (c.tcpConnectedHandler error).course = c.course ∨ c.enableReconnect = true ∧
      (c.tcpConnectedHandler error).course = { c.course with willReconnect := true } := by
  have connected : (c.applySession (TcpSession.start {})).connectedHandler.course = c.course ∨
      c.enableReconnect = true ∧ (c.applySession (TcpSession.start {})).connectedHandler.course =
        { c.course with willReconnect := true } := by
    have started := course_applySession c (TcpSession.start {})
    have enable : (c.applySession (TcpSession.start {})).enableReconnect = c.enableReconnect :=
      congrArg Course.enableReconnect started
    unfold connectedHandler
    rw [course_startTransfers, ← started, ← enable]
    exact course_markConnected _
  unfold tcpConnectedHandler
  rw [course_decrease]
  split
  · exact .inl (course_handleError c _ _)
  · split
    · exact .inl rfl
    · split
      · split
        · exact .inl rfl
        · exact connected
      · exact connected

theorem course_cancelConnect (c : Client Address) :
    c.cancelConnect.course = { c.course with retry := c.reconnectRetryTimer.cancel } := by
  have recorded := course_handleError c .clientCancelConnectByLocal none
  unfold cancelConnect
  have retry := congrArg Course.retry recorded
  simp only [course] at recorded retry ⊢
  simp only [Course.mk.injEq] at recorded ⊢
  exact ⟨recorded.1, recorded.2.1, recorded.2.2.1, congrArg Timer.cancel retry, recorded.2.2.2.2⟩

theorem course_disconnect (c : Client Address) :
    c.disconnect.manuallyDisconnect = true ∧ c.disconnect.connects = c.connects := by
  have cancelled := course_cancelConnect
    { c with manuallyDisconnect := true, willReconnectIfDisconnected := false }
  have closed (s : TcpSession) := course_applySession
    { c with manuallyDisconnect := true, willReconnectIfDisconnected := false } s.disconnect
  unfold disconnect
  dsimp only
  split
  · exact ⟨congrArg Course.manual cancelled, congrArg Course.connects cancelled⟩
  · split
    · rename_i s _
      split
      · exact ⟨congrArg Course.manual (closed s), congrArg Course.connects (closed s)⟩
      · exact ⟨congrArg Course.manual cancelled, congrArg Course.connects cancelled⟩
    · exact ⟨congrArg Course.manual cancelled, congrArg Course.connects cancelled⟩

end Client

def ClientEvent.movesCourse : ClientEvent → Bool
  | .connectAsync .. | .disconnect | .disableReconnect | .enableReconnect _ | .connectDone _
  | .delegateReturned | .retryExpires | .runRetry | .runRetryAborted => true
  | _ => false

namespace Client
variable {Address : Type*} {net : Addresses Address} {maxPacketSize : Nat} {c d : Client Address}
  {e : ClientEvent}

theorem step_sameCourse (still : e.movesCourse = false)
    (moved : step net maxPacketSize c e = some d) : d.course = c.course := by
  cases moves : e.movesSettings with
  | false => exact course_of_settings (step_sameSettings moves moved)
  | true =>
    cases occurs_of_step moved with
    | _ => first | rfl | contradiction

/-- No attempt follows: connect_async refuses, or no reconnect is wanted, no retry is due or
    will be, and no connect under way could make the client want one. -/
def Halted (c : Client Address) : Prop :=
  c.manuallyDisconnect = true ∨ c.willReconnectIfDisconnected = false ∧
    c.reconnectRetryTimer.live = 0 ∧ (c.enableReconnect = true → c.connects = [])

theorem halted_of_course (same : d.course = c.course) (halted : c.Halted) : d.Halted := by
  have manual := congrArg Course.manual same
  have will := congrArg Course.willReconnect same
  have enabled := congrArg Course.enableReconnect same
  have retry := congrArg Course.retry same
  have connects := congrArg Course.connects same
  simp only [course] at manual will enabled retry connects
  unfold Halted
  rw [manual, will, enabled, retry, connects]
  exact halted

theorem attempts_of_connects (same : d.connects = c.connects) (still : e.connectsDone = 0) :
    c.attempts d e = 0 := by
  unfold attempts
  rw [same, still]
  omega

theorem halted_connectAsync (net : Addresses Address) (manual : c.manuallyDisconnect = true) :
    (connectAsync net c).Halted ∧ (connectAsync net c).connects = c.connects := by
  unfold connectAsync
  rw [if_pos manual]
  exact ⟨.inl manual, rfl⟩

theorem halted_afterDisconnected (net : Addresses Address) (halted : c.Halted) (will : Bool) :
    (c.afterDisconnected net will).Halted ∧
      (c.afterDisconnected net will).connects = c.connects := by
  unfold afterDisconnected
  dsimp only
  rcases halted with manual | ⟨unwanted, retry, enabled⟩
  · split
    · split
      · exact ⟨.inl manual, rfl⟩
      · exact halted_connectAsync net manual
    · exact ⟨.inl manual, rfl⟩
  · rw [if_neg (by simp [unwanted])]
    exact ⟨.inr ⟨rfl, retry, enabled⟩, rfl⟩

theorem halted_delegateReturned (net : Addresses Address) (halted : c.Halted) (r : Running) :
    (c.delegateReturned net r).Halted ∧ (c.delegateReturned net r).connects = c.connects := by
  cases r with
  | sendFinish packet =>
    have same := course_decrease { c with running := none }
    exact ⟨halted_of_course same halted, congrArg Course.connects same⟩
  | disconnected will =>
    have same := course_processFailedPackets { c with running := none }
    obtain ⟨still, connects⟩ := halted_afterDisconnected net (halted_of_course same halted) will
    exact ⟨still, connects.trans (congrArg Course.connects same)⟩
  | reconnectFailed will => exact halted_afterDisconnected net (by exact halted) will

theorem connects_connectDone (c : Client Address) (others : List (Address × BitVec 16))
    (error : Outcome) :
    ({ c with connects := others }.tcpConnectedHandler error).connects = others := by
  rcases course_tcpConnectedHandler { c with connects := others } error with same | ⟨_, same⟩
  · exact congrArg Course.connects same
  · exact congrArg Course.connects same

theorem halted_connectDone {first : Address × BitVec 16} {others : List (Address × BitVec 16)}
    (halted : c.Halted) (pending : c.connects = first :: others) (error : Outcome) :
    ({ c with connects := others }.tcpConnectedHandler error).Halted ∧
      ({ c with connects := others }.tcpConnectedHandler error).connects = others := by
  have done := course_tcpConnectedHandler { c with connects := others } error
  refine ⟨?_, connects_connectDone c others error⟩
  rcases halted with manual | ⟨unwanted, retry, enabled⟩
  · left
    rcases done with same | ⟨_, same⟩
    · exact (congrArg Course.manual same).trans manual
    · exact (congrArg Course.manual same).trans manual
  · have disabled : c.enableReconnect ≠ true := by
      intro enable
      have none := enabled enable
      rw [pending] at none
      contradiction
    rcases done with same | ⟨enable, _⟩
    · exact halted_of_course same (.inr ⟨unwanted, retry, fun enable => absurd enable disabled⟩)
    · exact absurd enable disabled

theorem halted_retryExpires {timer : Timer} (halted : c.Halted)
    (fired : c.reconnectRetryTimer.expire = some timer) :
    ({ c with reconnectRetryTimer := timer }).Halted := by
  rcases halted with manual | ⟨unwanted, retry, enabled⟩
  · exact .inl manual
  · have same := (Timer.expire_spec fired).2.1
    exact .inr ⟨unwanted, same.trans retry, enabled⟩

theorem halted_runRetry (net : Addresses Address) {timer : Timer} (halted : c.Halted)
    (taken : c.reconnectRetryTimer.takeExpired = some timer) :
    ({ c with reconnectRetryTimer := timer }.reconnectTimerPulse net).Halted ∧
      ({ c with reconnectRetryTimer := timer }.reconnectTimerPulse net).connects =
        c.connects := by
  rcases halted with manual | ⟨_, retry, _⟩
  · exact halted_connectAsync net manual
  · have due := (Timer.takeExpired_spec taken).2.1
    omega

theorem halted_step (halted : c.Halted) (anew : c.connectsAnew e = false)
    (notAgain : ∀ retries, e = .enableReconnect retries →
      c.manuallyDisconnect = true ∨ c.connects = [])
    (moved : step net maxPacketSize c e = some d) :
    (e.cancels = true ∨ d.Halted) ∧ c.attempts d e = 0 := by
  cases still : e.movesCourse with
  | false =>
    have same := step_sameCourse still moved
    refine ⟨.inr (halted_of_course same halted), attempts_of_connects ?_ ?_⟩
    · exact congrArg Course.connects same
    · cases e <;> first | rfl | contradiction
  | true =>
    cases occurs_of_step moved with
    | connectAsync destination port flags =>
      have refused : ¬c.acceptsConnect := of_decide_eq_false anew
      unfold startConnect
      rw [if_neg refused]
      exact ⟨.inr halted, attempts_of_connects rfl rfl⟩
    | disconnect => exact ⟨.inl rfl, attempts_of_connects (course_disconnect c).2 rfl⟩
    | disableReconnect => exact ⟨.inl rfl, attempts_of_connects rfl rfl⟩
    | enableReconnect retries =>
      refine ⟨.inr ?_, attempts_of_connects rfl rfl⟩
      rcases halted with manual | ⟨unwanted, retry, _⟩
      · exact .inl manual
      · rcases notAgain retries rfl with manual | none
        · exact .inl manual
        · exact .inr ⟨unwanted, retry, fun _ => none⟩
    | @delegateReturned r running =>
      obtain ⟨after, connects⟩ := halted_delegateReturned net halted r
      exact ⟨.inr after, attempts_of_connects connects rfl⟩
    | retryExpires fired =>
      exact ⟨.inr (halted_retryExpires halted fired), attempts_of_connects rfl rfl⟩
    | connectDone error pending =>
      obtain ⟨after, connects⟩ := halted_connectDone halted pending error
      refine ⟨.inr after, ?_⟩
      unfold attempts
      rw [connects, pending, List.length_cons]
      simp [ClientEvent.connectsDone]
    | runRetry taken =>
      obtain ⟨after, connects⟩ := halted_runRetry net halted taken
      exact ⟨.inr after, attempts_of_connects connects rfl⟩
    | runRetryAborted taken =>
      refine ⟨.inr ?_, attempts_of_connects rfl rfl⟩
      rcases halted with manual | ⟨unwanted, retry, enabled⟩
      · exact .inl manual
      · exact .inr ⟨unwanted, (Timer.takeAborted_spec taken).2.1.trans retry, enabled⟩
    | _ => contradiction

theorem halted_of_cancels (cancels : e.cancels = true)
    (inTime : e = .disableReconnect →
      c.manuallyDisconnect = true ∨ c.reconnectRetryTimer.expired = 0)
    (moved : step net maxPacketSize c e = some d) : d.Halted := by
  cases occurs_of_step moved with
  | disconnect => exact .inl (course_disconnect c).1
  | disableReconnect =>
    rcases inTime rfl with manual | none
    · exact .inl manual
    · exact .inr ⟨rfl, (Timer.cancel_live _).trans none, fun enabled => by contradiction⟩
  | _ => contradiction

end Client

namespace CancelRun
variable {Address : Type*} {net : Addresses Address} {maxPacketSize : Nat}
  {w v : CancelRun Address} {e : ClientEvent}

instance (w : CancelRun Address) : ∀ e, Decidable (w.cancelsInTime e)
  | .disableReconnect => inferInstanceAs (Decidable (_ ∨ _))
  | .enableReconnect _ => inferInstanceAs (Decidable (_ → _ ∨ _ = []))
  | .connectAsync .. | .disconnect | .sendAsync .. | .sendCopyAsync .. | .resetFailedData
  | .connectDone _ | .headerRead .. | .bodyRead .. | .recvHandlerReturned | .writeDone _
  | .runSendFinish _ | .runDisconnected | .setWillReconnect _ | .delegateReturned
  | .runNotification _ | .keepAliveExpires | .runKeepAlive | .runKeepAliveAborted | .retryExpires | .runRetry
  | .runRetryAborted | .destroy => isTrue trivial

structure Obeys (w : CancelRun Address) : Prop where
  halted : w.cancelled = true → w.client.Halted
  late : w.late = 0

theorem obeys_step (obeys : w.Obeys) (inTime : w.cancelsInTime e)
    (moved : w.step net maxPacketSize e = some v) : v.Obeys := by
  obtain ⟨client, stepped, rfl⟩ := Option.map_eq_some_iff.mp moved
  have cancelHalts (cancels : e.cancels = true) : client.Halted := by
    refine Client.halted_of_cancels cancels ?_ stepped
    rintro rfl
    exact inTime
  cases stands : (w.cancelled && ! w.client.connectsAnew e) with
  | false =>
    refine ⟨fun cancelled => ?_, obeys.late⟩
    rw [Bool.or_false] at cancelled
    exact cancelHalts cancelled
  | true =>
    simp only [Bool.and_eq_true, Bool.not_eq_true'] at stands
    obtain ⟨cancelled, anew⟩ := stands
    obtain ⟨after, none⟩ := Client.halted_step (obeys.halted cancelled) anew (by
      rintro retries rfl
      exact inTime cancelled) stepped
    refine ⟨fun _ => after.elim cancelHalts id, ?_⟩
    change w.late + w.client.attempts client e = 0
    rw [none, obeys.late]

/-- In every run in which the user cancels in time, no attempt follows. -/
theorem no_attempt_after_cancel (run : Reach (step net maxPacketSize) cancelsInTime {} w) :
    w.late = 0 := by
  have obeys : w.Obeys := reach_invariant Obeys ⟨fun cancelled => by contradiction, rfl⟩
    (fun _ _ _ obeys inTime moved => obeys_step obeys inTime moved) run
  exact obeys.late

def cancelledRetry : List ClientEvent :=
  Client.failedConnect ++ [.disableReconnect, .runRetryAborted]

theorem no_attempt_after_cancelled_retry : ∃ w, Reach (step Client.localhost 0x80000)
    cancelsInTime {} w ∧ w.cancelled = true ∧ w.late = 0 := by
  obtain ⟨w, run, cancelled⟩ := execWithin_any (step Client.localhost 0x80000) cancelsInTime {}
    cancelledRetry (fun w => w.cancelled) (by decide +kernel)
  exact ⟨w, run, cancelled, no_attempt_after_cancel run⟩

/-- DisableReconnect comes when the retry is due already. -/
theorem attempt_after_disable : ¬ ∀ w,
    Reach (step Client.localhost 0x80000) always {} w → w.late = 0 := by
  intro all
  obtain ⟨w, run, late⟩ := execWithin_any (step Client.localhost 0x80000) (fun _ _ => True) {}
    (Client.failedConnect ++ [.retryExpires, .disableReconnect, .runRetry])
    (fun w => decide (w.late = 1)) (by decide +kernel)
  have none := all w run
  rw [of_decide_eq_true late] at none
  contradiction

end CancelRun

end LaluneServer.NetLib
