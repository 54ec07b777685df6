import LaluneServer.NetLib.ClientRuns

/- What the sessions of a client and its packets leave alone: the user's wishes, the retry
   counter and its timer, the connects and the call of the delegate. -/
namespace LaluneServer.NetLib
open DeadlineTimer Transition

structure Settings (Address : Type*) where
  manual : Bool
  willReconnect : Bool
  enableReconnect : Bool
  firstConnect : Bool
  maxContinuousRetries : Int
  currentlyRetries : Int
  retry : Timer
  connects : List (Address × BitVec 16)
  running : Option Running
  destroyed : Bool

def ClientEvent.movesSettings : ClientEvent → Bool
  | .connectAsync .. | .disconnect | .disableReconnect | .enableReconnect _ | .connectDone _
  | .runSendFinish _ | .runDisconnected | .setWillReconnect _ | .delegateReturned
  | .retryExpires | .runRetry | .runRetryAborted | .destroy => true
  | _ => false

namespace Client
variable {Address : Type*} {net : Addresses Address} {maxPacketSize : Nat} {c d : Client Address}
  {e : ClientEvent} {p q : Phase}

def settings (c : Client Address) : Settings Address where
  manual := c.manuallyDisconnect
  willReconnect := c.willReconnectIfDisconnected
  enableReconnect := c.enableReconnect
  firstConnect := c.firstConnect
  maxContinuousRetries := c.maxContinuousRetries
  currentlyRetries := c.currentlyRetries
  retry := c.reconnectRetryTimer
  connects := c.connects
  running := c.running
  destroyed := c.destroyed

theorem settings_decrease (c : Client Address) :
    c.decreasePendingOpsCount.settings = c.settings := by
  unfold decreasePendingOpsCount
  dsimp only
  split <;> rfl

theorem settings_handleError (c : Client Address) (error : NetLibError) (internal : Outcome) :
    (c.handleError error internal).settings = c.settings := by
  unfold handleError
  split <;> rfl

theorem settings_ownerCall (c : Client Address) (call : OwnerCall) :
    (c.ownerCall call).settings = c.settings := by
  cases call with
  | decreasePendingOpsCount => exact settings_decrease c
  | handleError error internal => exact settings_handleError c error internal
  | _ => rfl

theorem settings_applySession (c : Client Address) (result : SessionResult) :
    (c.applySession result).settings = c.settings := by
  unfold applySession
  suffices all : ∀ (calls : List OwnerCall) (c : Client Address),
      (calls.foldl ownerCall c).settings = c.settings from all result.2 _
  intro calls
  induction calls with
  | nil => exact fun _ => rfl
  | cons call rest ih => exact fun c => (ih _).trans (settings_ownerCall c call)

theorem settings_sendPacket (c : Client Address) (packet : NetlibPacket) :
    (c.sendPacket packet).settings = c.settings := by
  unfold sendPacket
  split
  · split
    · exact settings_applySession c _
    · rfl
  · rfl

theorem settings_accept (c : Client Address) (data : Bytes) (copy : Bool) (pHint : BitVec 64) :
    (c.accept data copy pHint).settings = c.settings :=
  settings_sendPacket _ _

theorem settings_resendFailedData (packets : List NetlibPacket) (c : Client Address) :
    (resendFailedData packets c).settings = c.settings := by
  induction packets generalizing c with
  | nil => rfl
  | cons packet rest ih =>
    unfold resendFailedData
    split
    · rfl
    · exact (ih _).trans (settings_applySession _ _)

theorem settings_startTransfers (c : Client Address) :
    c.startTransfers.settings = c.settings := by
  unfold startTransfers
  split
  · rfl
  · dsimp only
    split
    · exact settings_resendFailedData _ c
    · exact settings_resendFailedData _ c

theorem settings_processFailedPackets (c : Client Address) :
    c.processFailedPackets.settings = c.settings := by
  unfold processFailedPackets
  split
  · exact settings_applySession c _
  · rfl

theorem step_sameSettings (still : e.movesSettings = false)
    (moved : step net maxPacketSize c e = some d) : d.settings = c.settings := by
  cases occurs_of_step moved with
  | sendAsync data pHint => exact settings_accept c data false pHint
  | sendCopyAsync data pHint => exact settings_accept c _ true pHint
  | headerRead error size session reading => exact settings_applySession c _
  | bodyRead error rest session reading whole => exact settings_applySession c _
  | writeDone error session taken done => exact settings_applySession c _
  | @runKeepAlive timer taken => exact settings_accept { c with keepAliveTimer := timer } _ true 0
  | runKeepAliveAborted taken => exact settings_decrease _
  | _ => first | rfl | contradiction

theorem reporting_busy (reporting : c.Reporting) : c.running ≠ none := by
  obtain ⟨will, ⟨running, _⟩ | ⟨running, _⟩⟩ := reporting.running
  · rw [running]
    exact Option.some_ne_none _
  · rw [running]
    exact Option.some_ne_none _

theorem phase_of_sameCalls (sound : Sound net p c) (after : Sound net q d)
    (next : Phase.Next p q) (connects : d.connects = c.connects) (running : d.running = c.running) :
    q = p ∨ p = .active ∧ q = .ending ∨ p = .idle ∧ q = .unresolved ∨
      p = .waiting ∧ q = .stuck := by
  have before := sound.phase
  have after := after.phase
  cases next with
  | stay => exact .inl rfl
  | connect =>
    have one := after.connects
    rw [connects, before.connects] at one
    contradiction
  | refuse => exact .inr (.inr (.inl ⟨rfl, rfl⟩))
  | establish =>
    obtain ⟨s, active, _⟩ := after
    have one := before.connects
    rw [← connects, active.connects] at one
    contradiction
  | fail =>
    have one := before.connects
    rw [← connects, after.connects] at one
    contradiction
  | close => exact .inr (.inl ⟨rfl, rfl⟩)
  | report => exact absurd (running.trans before.running) (reporting_busy after)
  | reset => exact absurd (running.symm.trans after.running) (reporting_busy before)
  | retryAtOnce => exact absurd (running.symm.trans after.running) (reporting_busy before)
  | retryLater => exact absurd (running.symm.trans after.running) (reporting_busy before)
  | retry =>
    have one := after.connects
    rw [connects, before.connects] at one
    contradiction
  | abandon => exact .inr (.inr (.inr ⟨rfl, rfl⟩))

theorem Follows.resolved (follows : Follows net p c e q d) (other : e.destination = none)
    (fine : p ≠ .unresolved) : q ≠ .unresolved := by
  intro unresolved
  refine (follows.unresolved unresolved).elim fine (fun broken => broken ?_)
  intro destination named
  rw [other] at named
  contradiction

theorem Follows.keptRetry (follows : Follows net p c e q d) (disconnect : e ≠ .disconnect)
    (disable : e ≠ .disableReconnect) (fine : p ≠ .stuck) : q ≠ .stuck := by
  intro stuck
  refine (follows.stuck stuck).elim fine (fun broken => broken ⟨?_, ?_⟩)
  · exact fun same => absurd same disconnect
  · exact fun same => absurd same disable

end Client

end LaluneServer.NetLib
