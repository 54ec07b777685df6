import LaluneServer.NetLib.ClientKeepAlive
import LaluneServer.NetLib.ClientPackets

/- The branches of tcp_connected_handler that its log calls UNEXPECTED and Fatal. A connect is
   started by a client without a session and without an error, and the only call that records
   an error before it ends is Disconnect. -/
namespace LaluneServer.NetLib
open DeadlineTimer Transition

namespace Client
variable {Address : Type*} (c d : Client Address)

/-- The session that connected_session no longer refers to after the event:
    tcp_connected_handler overwrites it, disconnected() resets it. -/
def droppedSession (e : ClientEvent) : Option TcpSession :=
  c.connectedSession.filter fun s => d.connectedSession.isNone ||
    (e = .connectDone none && ! c.manuallyDisconnect && ! s.isConnected)

end Client

structure SessionRun (Address : Type*) where
  client : Client Address := {}
  dropped : List TcpSession := []

namespace SessionRun
variable {Address : Type*} (net : Addresses Address) (maxPacketSize : Nat)
  (w : SessionRun Address)

def step (e : ClientEvent) : Option (SessionRun Address) :=
  (w.client.step net maxPacketSize e).map fun client =>
    { client := client
      dropped := w.dropped ++ (w.client.droppedSession client e).toList }

def sessions : List TcpSession := w.client.connectedSession.toList ++ w.dropped

/-- What tcp_connected_handler relies on when a connect ends, and what follows from it. -/
structure OneConnection : Prop where
  cancelled : ∀ d, w.client.step net maxPacketSize (.connectDone none) = some d →
    w.client.manuallyDisconnect = true → w.client.lastError = .clientCancelConnectByLocal
  offline : ∀ error d, w.client.step net maxPacketSize (.connectDone error) = some d →
    ∀ s, w.client.connectedSession = some s → s.isConnected = false
  connects : w.client.connects.length ≤ 1
  dropped : ∀ s ∈ w.dropped, s.isConnected = false ∧ s.operations = 0
  live : w.sessions.countP TcpSession.isConnected ≤ 1

end SessionRun

namespace Client
variable {Address : Type*} {net : Addresses Address} {maxPacketSize : Nat} {c d : Client Address}
  {e : ClientEvent} {p : Phase} {s : TcpSession}

def CancelsAreLocal (c : Client Address) : Prop :=
  c.connects ≠ [] → c.manuallyDisconnect = true → c.lastError = .clientCancelConnectByLocal

theorem manual_decrease (c : Client Address) :
    c.decreasePendingOpsCount.manuallyDisconnect = c.manuallyDisconnect :=
  congrArg Course.manual (course_decrease c)

/-- connect_async only adds a connect to a client that the user has not left. -/
theorem connectAsync_adds (net : Addresses Address) (c : Client Address) :
    (c.connectAsync net).connects = c.connects ∨
      (c.connectAsync net).manuallyDisconnect = false := by
  unfold connectAsync
  split
  · exact .inl rfl
  · rename_i wanted
    right
    unfold tcpConnectAsync
    split
    · exact Bool.eq_false_iff.mpr wanted
    · rw [manual_decrease]
      exact Bool.eq_false_iff.mpr wanted

theorem afterDisconnected_adds (net : Addresses Address) (c : Client Address) (will : Bool) :
    (c.afterDisconnected net will).connects = c.connects ∨
      (c.afterDisconnected net will).manuallyDisconnect = false := by
  unfold afterDisconnected
  dsimp only
  split
  · split
    · exact .inl rfl
    · exact connectAsync_adds net _
  · exact .inl rfl

theorem delegateReturned_adds (net : Addresses Address) (c : Client Address) (r : Running) :
    (c.delegateReturned net r).connects = c.connects ∨
      (c.delegateReturned net r).manuallyDisconnect = false := by
  cases r with
  | sendFinish packet => exact .inl (congrArg Course.connects (course_decrease _))
  | disconnected will =>
    have same := congrArg Course.connects (course_processFailedPackets { c with running := none })
    exact (afterDisconnected_adds net _ will).imp_left (fun added => added.trans same)
  | reconnectFailed will => exact afterDisconnected_adds net { c with running := none } will

theorem manual_of_connect (idle : c.connects = []) (started : d.connects ≠ [])
    (moved : step net maxPacketSize c e = some d) : d.manuallyDisconnect = false := by
  have added : d.connects ≠ c.connects := by
    rw [idle]
    exact started
  cases still : e.movesCourse with
  | false => exact absurd (congrArg Course.connects (step_sameCourse still moved)) added
  | true =>
    cases occurs_of_step moved with
    | connectAsync destination port flags =>
      unfold startConnect at added ⊢
      split at added
      · rename_i accepted
        rw [if_pos accepted]
        refine (connectAsync_adds net _).resolve_left ?_
        cases destination <;> exact added
      · exact absurd rfl added
    | disconnect => exact absurd (course_disconnect c).2 added
    | delegateReturned running => exact (delegateReturned_adds net c _).resolve_left added
    | connectDone error pending =>
      rw [idle] at pending
      contradiction
    | runRetry taken => exact (connectAsync_adds net _).resolve_left added
    | _ => contradiction

theorem disconnect_connecting (sound : Sound net .connecting c) :
    c.disconnect = { c with
      manuallyDisconnect := true, willReconnectIfDisconnected := false }.cancelConnect := by
  unfold disconnect
  dsimp only
  split
  · rfl
  · rw [sound.phase.session]

theorem cancelsAreLocal_disconnect (sound : Sound net .connecting c) (inv : c.CancelsAreLocal) :
    c.disconnect.CancelsAreLocal := by
  intro _ _
  have one := sound.phase.connects
  have pending : c.connects ≠ [] := by
    intro none
    rw [none] at one
    contradiction
  rw [disconnect_connecting sound]
  unfold cancelConnect handleError
  by_cases fresh : c.lastError = .noError
  · simp only [fresh, if_true]
  · simp only [fresh, if_false]
    exact inv pending (sound.phase.error.mpr fresh)

theorem CancelsAreLocal.same (inv : c.CancelsAreLocal) (connects : d.connects = c.connects)
    (manual : d.manuallyDisconnect = c.manuallyDisconnect) (error : d.lastError = c.lastError) :
    d.CancelsAreLocal := by
  unfold CancelsAreLocal
  rw [connects, manual, error]
  exact inv

theorem CancelsAreLocal.accept (inv : c.CancelsAreLocal) (data : Bytes) (copy : Bool)
    (pHint : BitVec 64) : (c.accept data copy pHint).CancelsAreLocal := by
  have course := course_accept c data copy pHint
  exact inv.same (congrArg Course.connects course) (congrArg Course.manual course)
    (congrArg Prod.fst (pulse_accept c data copy pHint))

theorem cancelsAreLocal_connecting (sound : Sound net .connecting c) (inv : c.CancelsAreLocal)
    (still : d.connects ≠ []) (moved : step net maxPacketSize c e = some d) :
    d.CancelsAreLocal := by
  obtain ⟨⟨session, finishes, keepAlive, posts, idle⟩, one, retry, _, _, _⟩ := sound.phase
  cases occurs_of_step moved with
  | connectAsync destination port flags =>
    rw [startConnect_busy sound (by decide)]
    exact inv
  | disconnect => exact cancelsAreLocal_disconnect sound inv
  | sendAsync data pHint => exact inv.accept data false pHint
  | sendCopyAsync data pHint => exact inv.accept _ true pHint
  | recvHandlerReturned other =>
    rw [session] at other
    contradiction
  | setWillReconnect will running written =>
    rw [idle] at running
    contradiction
  | delegateReturned running =>
    rw [idle] at running
    contradiction
  | @connectDone error first others pending =>
    obtain ⟨_, none⟩ := only_connect sound pending
    exact absurd ((connects_connectDone c others error).trans none) still
  | headerRead error size other =>
    rw [session] at other
    contradiction
  | bodyRead error rest other =>
    rw [session] at other
    contradiction
  | writeDone error other =>
    rw [session] at other
    contradiction
  | runSendFinish index free posted =>
    rw [finishes] at posted
    contradiction
  | runDisconnected posted => exact absurd posts posted
  | runKeepAlive taken =>
    have waits := (Timer.takeExpired_spec taken).1
    omega
  | runKeepAliveAborted taken =>
    have waits := (Timer.takeAborted_spec taken).1
    omega
  | runRetry taken =>
    have due := (Timer.takeExpired_spec taken).2.1
    omega
  | _ => exact inv

theorem cancelsAreLocal_step (sound : Sound net p c) (inv : c.CancelsAreLocal)
    (moved : step net maxPacketSize c e = some d) : d.CancelsAreLocal := by
  intro started manual
  by_cases idle : c.connects = []
  · rw [manual_of_connect idle started moved] at manual
    contradiction
  · obtain rfl := connecting_of_connects sound idle
    exact cancelsAreLocal_connecting sound inv started moved started manual

theorem session_ownerCall (c : Client Address) (call : OwnerCall) :
    (c.ownerCall call).connectedSession = c.connectedSession := by
  cases call with
  | decreasePendingOpsCount => exact session_decrease c
  | handleError error internal => exact session_handleError c error internal
  | _ => rfl

theorem session_applySession (c : Client Address) (result : SessionResult) :
    (c.applySession result).connectedSession = some result.1 := by
  suffices all : ∀ (calls : List OwnerCall) (c : Client Address),
      (calls.foldl ownerCall c).connectedSession = c.connectedSession from all result.2 _
  intro calls
  induction calls with
  | nil => exact fun _ => rfl
  | cons call rest ih => exact fun c => (ih _).trans (session_ownerCall c call)

theorem session_accept (session : c.connectedSession = some s) (data : Bytes) (copy : Bool)
    (pHint : BitVec 64) : (c.accept data copy pHint).connectedSession ≠ none := by
  unfold accept sendPacket
  simp only [session]
  split
  · rw [session_applySession]
    exact Option.some_ne_none _
  · exact Option.some_ne_none s

theorem session_active (sound : Sound net .active c)
    (moved : step net maxPacketSize c e = some d) : d.connectedSession ≠ none := by
  obtain ⟨s, active, _⟩ := sound.phase
  have session := active.session
  have kept : c.connectedSession ≠ none := by
    rw [session]
    exact Option.some_ne_none s
  cases still : e.movesPackets with
  | false =>
    rcases (step_sameQueues still moved).session with ⟨none, _⟩ | ⟨_, t, _, after, _⟩
    · exact absurd none kept
    · rw [after]
      exact Option.some_ne_none t
  | true =>
    cases occurs_of_step moved with
    | sendAsync data pHint => exact session_accept session data false pHint
    | sendCopyAsync data pHint => exact session_accept session _ true pHint
    | delegateReturned running =>
      rcases phase_of_running sound running with ⟨_, packet, rfl⟩ | ⟨reporting, _⟩
      · exact fun gone => kept ((session_decrease { c with running := none }).symm.trans gone)
      · contradiction
    | connectDone error pending =>
      rw [active.connects] at pending
      contradiction
    | writeDone error other taken done =>
      rw [session_applySession]
      exact Option.some_ne_none _
    | @runKeepAlive timer taken =>
      exact session_accept (c := { c with keepAliveTimer := timer }) session _ true 0
    | destroy unused => exact absurd unused.2.1 kept
    | _ => first | exact kept | contradiction

theorem droppedSession_over (sound : Sound net p c)
    (moved : step net maxPacketSize c e = some d) (dropped : c.droppedSession d e = some s) :
    s.isConnected = false ∧ s.operations = 0 := by
  obtain ⟨session, reason⟩ := Option.filter_eq_some_iff.mp dropped
  rcases active_or_gone sound with rfl | detached | ended
  · exfalso
    have kept := session_active sound moved
    obtain ⟨t, after⟩ := Option.ne_none_iff_exists'.mp kept
    simp only [after, Option.isNone_some, Bool.false_or, Bool.and_eq_true, decide_eq_true_eq]
      at reason
    obtain ⟨⟨rfl, _⟩, _⟩ := reason
    obtain ⟨_, active, _⟩ := sound.phase
    cases occurs_of_step moved with
    | connectDone _ pending =>
      rw [active.connects] at pending
      contradiction
  · rw [detached.session] at session
    contradiction
  · obtain ⟨closed, none, _⟩ := ended.closed s session
    exact ⟨closed, none⟩

end Client

namespace SessionRun
variable {Address : Type*} {net : Addresses Address} {maxPacketSize : Nat}
  {w v : SessionRun Address} {e : ClientEvent}

structure Kept (net : Addresses Address) (w : SessionRun Address) : Prop where
  sound : ∃ p, Client.Sound net p w.client
  cancels : w.client.CancelsAreLocal
  dropped : ∀ s ∈ w.dropped, s.isConnected = false ∧ s.operations = 0

theorem kept_step (kept : w.Kept net) (moved : w.step net maxPacketSize e = some v) :
    v.Kept net := by
  obtain ⟨client, stepped, rfl⟩ := Option.map_eq_some_iff.mp moved
  obtain ⟨p, sound⟩ := kept.sound
  obtain ⟨q, follows⟩ := Client.step_follows sound stepped
  refine ⟨⟨q, follows.sound⟩, Client.cancelsAreLocal_step sound kept.cancels stepped, ?_⟩
  intro s member
  rcases List.mem_append.mp member with before | now
  · exact kept.dropped s before
  · exact Client.droppedSession_over sound stepped (Option.mem_toList.mp now)

theorem Kept.oneConnection (kept : w.Kept net) : w.OneConnection net maxPacketSize := by
  obtain ⟨p, sound⟩ := kept.sound
  have pending {error : Outcome} {d : Client Address}
      (moved : w.client.step net maxPacketSize (.connectDone error) = some d) :
      w.client.connects ≠ [] := by
    cases Client.occurs_of_step moved with
    | connectDone _ pending =>
      rw [pending]
      exact List.cons_ne_nil _ _
  refine ⟨?_, ?_, sound.kinds.1, kept.dropped, ?_⟩
  · intro d moved manual
    exact kept.cancels (pending moved) manual
  · intro error d moved s session
    obtain rfl := Client.connecting_of_connects sound (pending moved)
    rw [sound.phase.session] at session
    contradiction
  · have none : w.dropped.countP TcpSession.isConnected = 0 := by
      refine List.countP_eq_zero.mpr ?_
      intro s member
      rw [(kept.dropped s member).1]
      exact Bool.false_ne_true
    unfold sessions
    rw [List.countP_append, none]
    exact List.countP_le_length.trans Option.length_toList_le

/-- In every run, a connect that ends finds no connected session, an error beside a manual
    disconnect is the one of Disconnect, and there is one connect and one live session at
    most. -/
theorem one_connection_in_every_run (run : Reach (step net maxPacketSize) always {} w) :
    w.OneConnection net maxPacketSize := by
  have kept : w.Kept net := by
    refine reach_invariant (Kept net) ⟨⟨.idle, Client.sound_initial net⟩, ?_, ?_⟩ ?_ run
    · exact fun started => absurd rfl started
    · exact fun s member => by contradiction
    · exact fun v e t kept _ moved => kept_step kept moved
  exact kept.oneConnection

def cancelledReconnect : List ClientEvent :=
  [.connectAsync (.ip "127.0.0.1") 80 0, .connectDone none, .headerRead (some .eof) 0,
    .runDisconnected, .setWillReconnect true, .delegateReturned, .disconnect]

theorem one_connection_in_cancelled_reconnect : ∃ w, Reach (step Client.localhost 0x80000)
    always {} w ∧ (w.dropped.length = 1 ∧ w.client.connects.length = 1 ∧
      w.client.manuallyDisconnect = true) ∧ w.OneConnection Client.localhost 0x80000 := by
  obtain ⟨w, run, test⟩ := execWithin_any (step Client.localhost 0x80000) (fun _ _ => True) {}
    cancelledReconnect (fun w => decide (w.dropped.length = 1 ∧ w.client.connects.length = 1 ∧
      w.client.manuallyDisconnect = true)) (by decide +kernel)
  exact ⟨w, run, of_decide_eq_true test, one_connection_in_every_run run⟩

end SessionRun

end LaluneServer.NetLib
