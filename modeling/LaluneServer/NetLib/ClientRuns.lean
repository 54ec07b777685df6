import LaluneServer.Lib.Transition
import LaluneServer.NetLib.ClientSteps

/- Runs of a client. Every step follows the life cycle; the destination of an accepted
   ConnectAsync decides whether it is left towards the client whose counter is wrong,
   Disconnect and DisableReconnect whether it is left towards the client that keeps
   m_in_disconnect_process. -/
namespace LaluneServer.NetLib
open DeadlineTimer Transition

def ClientEvent.destination : ClientEvent → Option Destination
  | .connectAsync destination _ _ => some destination
  | _ => none

namespace Client
variable {Address : Type*} (net : Addresses Address)

/-- A ConnectAsync that is accepted has a destination for which there is an address. -/
def destinationResolves (c : Client Address) (e : ClientEvent) : Prop :=
  ∀ destination ∈ e.destination, c.acceptsConnect →
    ((c.setDestination destination).endpointAddress net).isSome = true

instance (c : Client Address) (e : ClientEvent) : Decidable (destinationResolves net c e) :=
  inferInstanceAs (Decidable (∀ _ ∈ _, _))

/-- Disconnect is not called while a retry is to come, DisableReconnect not while
    reconnect_retry_timer still runs. -/
def leavesRetry (c : Client Address) (e : ClientEvent) : Prop :=
  (e = .disconnect → c.reconnectRetryTimer.live = 0) ∧
  (e = .disableReconnect → c.reconnectRetryTimer.pending = 0)

instance (c : Client Address) (e : ClientEvent) : Decidable (leavesRetry c e) :=
  inferInstanceAs (Decidable (_ ∧ _))

structure Follows (p : Phase) (c : Client Address) (e : ClientEvent) (q : Phase)
    (d : Client Address) : Prop where
  next : Phase.Next p q
  sound : Sound net q d
  unresolved : q = .unresolved → p = .unresolved ∨ ¬ destinationResolves net c e
  stuck : q = .stuck → p = .stuck ∨ ¬ leavesRetry c e

variable {net} {maxPacketSize : Nat} {c d : Client Address} {p : Phase} {e : ClientEvent}

theorem Moves.follows (moved : Moves net p d) (c : Client Address) (e : ClientEvent) :
    ∃ q, Follows net p c e q d := by
  obtain ⟨q, next, alive, sound⟩ := moved
  refine ⟨q, next, sound, ?_, ?_⟩
  · rintro rfl
    exact Or.inl (alive rfl).symm
  · rintro rfl
    exact Or.inl (alive rfl).symm

theorem step_follows (sound : Sound net p c) (moved : step net maxPacketSize c e = some d) :
    ∃ q, Follows net p c e q d := by
  cases occurs_of_step moved with
  | connectAsync destination port flags =>
    rcases startConnect_cases sound destination port flags with moves | ⟨idle, none, failed⟩
    · exact moves.follows c _
    · subst idle
      refine ⟨.unresolved, .refuse, failed, fun _ => Or.inr ?_, fun no => by contradiction⟩
      intro resolves
      have found := resolves destination rfl ((accepts_iff_idle sound).mpr rfl)
      rw [none] at found
      contradiction
  | disconnect =>
    rcases moves_disconnect sound with moves | ⟨rfl, stuck⟩
    · exact moves.follows c _
    · refine ⟨.stuck, .abandon, stuck, fun no => by contradiction, fun _ => Or.inr ?_⟩
      intro none
      have one := sound.phase.retry
      have none := none.1 rfl
      omega
  | disableReconnect =>
    rcases moves_disableReconnect sound with moves | ⟨rfl, armed, stuck⟩
    · exact moves.follows c _
    · refine ⟨.stuck, .abandon, stuck, fun no => by contradiction, fun _ => Or.inr ?_⟩
      intro none
      have none := none.2 rfl
      omega
  | enableReconnect retries =>
    have same : SamePhase c (c.enableReconnectWith retries) := by
      constructor <;> first | rfl | exact id
    exact (same.moves net sound).follows c _
  | sendAsync data pHint => exact (moves_accept sound data false pHint).follows c _
  | sendCopyAsync data pHint => exact (moves_accept sound _ true pHint).follows c _
  | resetFailedData =>
    have same : SamePhase c c.resetFailedData := by
      constructor <;> first | rfl | exact id
    exact (same.moves net sound).follows c _
  | recvHandlerReturned session reading =>
    obtain rfl := active_of_reading sound session (by rw [reading]; rfl)
    exact (moves_recvHandlerReturned sound session reading).follows c _
  | setWillReconnect will running written =>
    exact (moves_setWillReconnect sound running written).follows c _
  | delegateReturned running => exact (moves_delegateReturned sound running).follows c _
  | @keepAliveExpires timer fired =>
    obtain ⟨waits, _⟩ := Timer.expire_spec fired
    have same : SamePhase c { c with keepAliveTimer := timer } := by
      constructor <;> first | rfl | exact id | exact waits
    exact (same.moves net sound).follows c _
  | retryExpires fired => exact (moves_retryExpires sound fired).follows c _
  | connectDone error pending => exact (moves_connectDone sound pending error).follows c _
  | headerRead error size session reading =>
    obtain rfl := active_of_reading sound session (by rw [reading]; rfl)
    exact (moves_header sound session reading maxPacketSize error size).follows c _
  | @bodyRead error rest s size session reading whole =>
    have some_read : s.reading.isSome = true := by rw [reading]; rfl
    obtain rfl := active_of_reading sound session some_read
    exact (moves_body sound session some_read error rest).follows c _
  | @writeDone error s t r session taken done =>
    have some_write : 0 < sessionOperations c.connectedSession := by
      rw [session]
      exact TcpSession.operations_of_takeWrite taken
    obtain rfl := active_of_operation sound (Or.inl some_write)
    exact (moves_writeDone sound session taken done).follows c _
  | runSendFinish index free posted =>
    have idle : c.running = none := by
      unfold busy at free
      simpa using (Bool.or_eq_false_iff.mp free).1
    exact (moves_runSendFinish sound idle posted).follows c _
  | runDisconnected posted => exact (moves_runDisconnected sound posted).follows c _
  | runNotification index posted =>
    have same : SamePhase c { c with notifications := c.notifications.eraseIdx index } := by
      constructor <;> first | rfl | exact id
    exact (same.moves net sound).follows c _
  | runKeepAlive taken => exact (moves_keepAlive sound taken).follows c _
  | runKeepAliveAborted taken => exact (moves_keepAliveAborted sound taken).follows c _
  | runRetry taken => exact (moves_runRetry sound taken).follows c _
  | @runRetryAborted timer taken =>
    obtain ⟨_, _, expired, pending⟩ := Timer.takeAborted_spec taken
    have same : SamePhase c { c with reconnectRetryTimer := timer } := by
      constructor <;> first | rfl | exact id | exact pending | exact expired
    exact (same.moves net sound).follows c _
  | destroy unused =>
    have same : SamePhase c c.destroy := by
      constructor <;> first | rfl | exact id
    exact (same.moves net sound).follows c _

theorem reach_sound (run : Reach (step net maxPacketSize) (destinationResolves net) {} c) :
    ∃ p, p ≠ .unresolved ∧ Sound net p c := by
  refine reach_invariant (fun c => ∃ p, p ≠ .unresolved ∧ Sound net p c)
    ⟨.idle, by decide, sound_initial net⟩ ?_ run
  rintro s e t ⟨p, fine, sound⟩ resolves moved
  obtain ⟨q, follows⟩ := step_follows sound moved
  refine ⟨q, ?_, follows.sound⟩
  intro unresolved
  rcases follows.unresolved unresolved with before | broken
  · exact fine before
  · exact broken resolves

variable (net maxPacketSize) in
/-- What the counter of pending operations is for: each kind of operation is outstanding
    at most once, except for send-finish callbacks, the counter is their number, and the
    end of the last of them posts disconnected(). -/
structure CountExact (c : Client Address) : Prop where
  count : c.pendingOpsCount = c.operations
  nonnegative : 0 ≤ c.pendingOpsCount
  connects : c.connects.length ≤ 1
  writes : ∀ s, c.connectedSession = some s → s.writes.length ≤ 1
  keepAlive : c.keepAliveTimer.waits ≤ 1
  reported : ∀ e d, step net maxPacketSize c e = some d → 0 < c.operations → d.operations = 0 →
    d.lastError ≠ .noError ∧ d.disconnectedPosts = c.disconnectedPosts + 1

theorem operations_of_detached (detached : c.Detached) : c.operations = c.connects.length := by
  unfold Client.operations
  rw [detached.session, detached.finishes, detached.running, detached.keepAlive]
  rfl

theorem operations_of_ended (ended : c.Ended) (silent : runningOperations c.running = 0) :
    c.operations = 0 := by
  unfold Client.operations
  rw [ended.connects, ended.finishes, ended.keepAlive, silent]
  cases session : c.connectedSession with
  | none => rfl
  | some s =>
    have none := (ended.closed s session).2.1
    simpa [sessionOperations] using none

theorem reporting_silent (reporting : c.Reporting) : runningOperations c.running = 0 := by
  obtain ⟨will, ⟨running, _⟩ | ⟨running, _⟩⟩ := reporting.running
  · rw [running]
    rfl
  · rw [running]
    rfl

theorem Sound.count (sound : Sound net p c) (fine : p ≠ .unresolved) :
    c.pendingOpsCount = c.operations := by
  cases p with
  | idle =>
    rw [operations_of_detached sound.phase.toDetached, sound.phase.connects, sound.phase.count]
    rfl
  | connecting =>
    rw [operations_of_detached sound.phase.toDetached, sound.phase.connects, sound.phase.count]
    rfl
  | active =>
    obtain ⟨s, active, _⟩ := sound.phase
    have count := active.count
    omega
  | ending =>
    have running := sound.phase.running
    rw [operations_of_ended sound.phase.toEnded (by rw [running]; rfl), sound.phase.count]
    rfl
  | reporting =>
    rw [operations_of_ended sound.phase.toEnded (reporting_silent sound.phase), sound.phase.count]
    rfl
  | waiting =>
    rw [operations_of_detached sound.phase.toDetached, sound.phase.connects, sound.phase.count]
    rfl
  | stuck =>
    rw [operations_of_detached sound.phase.toDetached, sound.phase.connects, sound.phase.count]
    rfl
  | unresolved => exact absurd rfl fine

theorem phase_of_operations (sound : Sound net p c) :
    0 < c.operations ↔ p = .connecting ∨ p = .active := by
  have none : c.operations = 0 → ¬ 0 < c.operations := fun zero => by omega
  cases p with
  | idle =>
    have zero := operations_of_detached sound.phase.toDetached
    rw [sound.phase.connects] at zero
    simpa using none zero
  | connecting =>
    have one := operations_of_detached sound.phase.toDetached
    rw [sound.phase.connects] at one
    simp [one]
  | active =>
    obtain ⟨s, active, positive⟩ := sound.phase
    simpa using positive
  | ending =>
    have running := sound.phase.running
    simpa using none (operations_of_ended sound.phase.toEnded (by rw [running]; rfl))
  | reporting =>
    simpa using none (operations_of_ended sound.phase.toEnded (reporting_silent sound.phase))
  | waiting =>
    have zero := operations_of_detached sound.phase.toDetached
    rw [sound.phase.connects] at zero
    simpa using none zero
  | stuck =>
    have zero := operations_of_detached sound.phase.toDetached
    rw [sound.phase.connects] at zero
    simpa using none zero
  | unresolved =>
    have zero := operations_of_detached sound.phase.toDetached
    rw [sound.phase.connects] at zero
    simpa using none zero

theorem Sound.kinds (sound : Sound net p c) : c.connects.length ≤ 1 ∧
    (∀ s, c.connectedSession = some s → s.writes.length ≤ 1) ∧ c.keepAliveTimer.waits ≤ 1 := by
  have connects : c.connects.length ≤ 1 := by
    by_cases pending : c.connects = []
    · rw [pending]
      exact Nat.zero_le 1
    · obtain rfl := connecting_of_connects sound pending
      exact Nat.le_of_eq sound.phase.connects
  refine ⟨connects, ?_⟩
  rcases active_or_gone sound with rfl | detached | ended
  · obtain ⟨t, active, _⟩ := sound.phase
    refine ⟨?_, active.keepAlive⟩
    intro s session
    rw [active.session] at session
    cases session
    exact active.queue.writes_le
  · refine ⟨?_, ?_⟩
    · intro s session
      rw [detached.session] at session
      contradiction
    · rw [detached.keepAlive]
      exact Nat.zero_le 1
  · refine ⟨?_, ?_⟩
    · intro s session
      have none := (ended.closed s session).2.1
      unfold TcpSession.operations at none
      omega
    · rw [ended.keepAlive]
      exact Nat.zero_le 1

theorem step_reported (sound : Sound net p c) (moved : step net maxPacketSize c e = some d)
    (busy : 0 < c.operations) (settled : d.operations = 0) :
    d.lastError ≠ .noError ∧ d.disconnectedPosts = c.disconnectedPosts + 1 := by
  obtain ⟨q, follows⟩ := step_follows sound moved
  have silent : ¬ (q = .connecting ∨ q = .active) := by
    rw [← phase_of_operations follows.sound, settled]
    exact Nat.lt_irrefl 0
  have before : c.disconnectedPosts = 0 := by
    rcases (phase_of_operations sound).mp busy with rfl | rfl
    · exact sound.phase.posts
    · obtain ⟨s, active, _⟩ := sound.phase
      exact active.posts
  have ending : q = .ending := by
    have next := follows.next
    rcases (phase_of_operations sound).mp busy with rfl | rfl
    · cases next with
      | stay => exact absurd (Or.inl rfl) silent
      | establish => exact absurd (Or.inr rfl) silent
      | fail => rfl
    · cases next with
      | stay => exact absurd (Or.inr rfl) silent
      | close => rfl
  subst ending
  have ended := follows.sound.phase
  exact ⟨ended.error, by rw [ended.posts, before]⟩

/-- In every run whose accepted destinations resolve, m_pending_ops_count is the number of
    outstanding operations. -/
theorem count_exact_while_resolved
    (run : Reach (step net maxPacketSize) (destinationResolves net) {} c) :
    CountExact net maxPacketSize c := by
  obtain ⟨p, fine, sound⟩ := reach_sound run
  have count := sound.count fine
  obtain ⟨connects, writes, keepAlive⟩ := sound.kinds
  exact ⟨count, by omega, connects, writes, keepAlive,
    fun _ _ moved busy settled => step_reported sound moved busy settled⟩

def localhost : Addresses (BitVec 32) where
  fromString text := if text = "127.0.0.1" then some 0x7f000001 else none
  addressV4 value := value

def shortConnection : List ClientEvent :=
  [.connectAsync (.ip "127.0.0.1") 80 0, .connectDone none, .runNotification 0,
    .headerRead none 4, .bodyRead none [], .recvHandlerReturned,
    .sendAsync (uint32Bytes 4) 7, .writeDone none, .runSendFinish 0, .delegateReturned,
    .disconnect, .headerRead (some .operationAborted) 0, .runDisconnected, .delegateReturned]

theorem count_exact_in_short_connection : ∃ c, execWithin (step localhost 0x80000)
    (destinationResolves localhost) {} shortConnection = some c ∧
      CountExact localhost 0x80000 c := by
  obtain ⟨c, ran⟩ : ∃ c, execWithin (step localhost 0x80000) (destinationResolves localhost) {}
      shortConnection = some c := Option.isSome_iff_exists.mp (by decide +kernel)
  exact ⟨c, ran, count_exact_while_resolved (execWithin_reach ran)⟩

/-- tcp_connect_async lowers the counter in its catch block although the exception came
    before the counter was raised. -/
theorem count_negative_after_malformed_address : ¬ ∀ c,
    Reach (step localhost 0x80000) always {} c → CountExact localhost 0x80000 c := by
  intro all
  have run : exec (step localhost 0x80000) {} [.connectAsync (.ip "localhost") 80 0] =
      some (startConnect localhost {} (.ip "localhost") 80 0) := rfl
  have negative : (startConnect localhost {} (.ip "localhost") 80 0).pendingOpsCount = -1 := by
    decide +kernel
  have nonnegative := (all _ (exec_reach run)).nonnegative
  rw [negative] at nonnegative
  contradiction

structure Quiescent (c : Client Address) : Prop where
  offline : ∀ s, c.connectedSession = some s → s.isConnected = false
  operations : c.operations = 0
  retry : c.reconnectRetryTimer.waits = 0
  keepAlive : c.keepAliveTimer.waits = 0
  posts : c.disconnectedPosts = 0
  notifications : c.notifications = []
  running : c.running = none

structure Reusable (c : Client Address) : Prop where
  count : c.pendingOpsCount = 0
  process : c.inDisconnectProcess = false
  retries : c.currentlyRetries = 0
  accepts : c.acceptsConnect

theorem reach_sound_with_retry (run : Reach (step net maxPacketSize)
    (fun c e => destinationResolves net c e ∧ leavesRetry c e) {} c) :
    ∃ p, p.deadEnd = false ∧ Sound net p c := by
  refine reach_invariant (fun c => ∃ p, p.deadEnd = false ∧ Sound net p c)
    ⟨.idle, rfl, sound_initial net⟩ ?_ run
  rintro s e t ⟨p, alive, sound⟩ ⟨resolves, leaves⟩ moved
  obtain ⟨q, follows⟩ := step_follows sound moved
  refine ⟨q, ?_, follows.sound⟩
  cases q with
  | stuck =>
    rcases follows.stuck rfl with rfl | broken
    · contradiction
    · exact absurd leaves broken
  | unresolved =>
    rcases follows.unresolved rfl with rfl | broken
    · contradiction
    · exact absurd resolves broken
  | idle | connecting | active | ending | reporting | waiting => rfl

theorem reusable_of_quiescent (sound : Sound net p c) (alive : p.deadEnd = false)
    (quiet : c.Quiescent) : c.Reusable := by
  have idle : p = .idle := by
    have none : ¬ 0 < c.operations := by
      rw [quiet.operations]
      exact Nat.lt_irrefl 0
    cases p with
    | idle => rfl
    | connecting => exact absurd ((phase_of_operations sound).mpr (Or.inl rfl)) none
    | active => exact absurd ((phase_of_operations sound).mpr (Or.inr rfl)) none
    | ending =>
      have posts := sound.phase.posts
      rw [quiet.posts] at posts
      contradiction
    | reporting =>
      obtain ⟨will, ⟨running, _⟩ | ⟨running, _⟩⟩ := sound.phase.running
      · rw [quiet.running] at running
        contradiction
      · rw [quiet.running] at running
        contradiction
    | waiting =>
      have retry := sound.phase.retry
      have waits := quiet.retry
      unfold Timer.waits at waits
      unfold Timer.live at retry
      omega
    | stuck => contradiction
    | unresolved => contradiction
  subst idle
  have idle := sound.phase
  exact ⟨idle.count, idle.process, idle.retries, idle.count, idle.process⟩

/-- In every run that leaves the retries alone, a quiescent client can connect again. -/
theorem quiescent_reusable_while_retries_run (run : Reach (step net maxPacketSize)
    (fun c e => destinationResolves net c e ∧ leavesRetry c e) {} c) (quiet : c.Quiescent) :
    c.Reusable := by
  obtain ⟨p, alive, sound⟩ := reach_sound_with_retry run
  exact reusable_of_quiescent sound alive quiet

instance (c : Client Address) : Decidable c.Quiescent :=
  decidable_of_iff ((∀ s ∈ c.connectedSession, s.isConnected = false) ∧ c.operations = 0 ∧
      c.reconnectRetryTimer.waits = 0 ∧ c.keepAliveTimer.waits = 0 ∧ c.disconnectedPosts = 0 ∧
      c.notifications = [] ∧ c.running = none)
    ⟨fun ⟨offline, operations, retry, keepAlive, posts, notifications, running⟩ =>
        ⟨offline, operations, retry, keepAlive, posts, notifications, running⟩,
      fun quiet => ⟨quiet.offline, quiet.operations, quiet.retry, quiet.keepAlive, quiet.posts,
        quiet.notifications, quiet.running⟩⟩

def failedConnect : List ClientEvent :=
  [.connectAsync (.ip "127.0.0.1") 80 clientEnableReconnectOnFirstConnect,
    .connectDone (some .connectionRefused), .runDisconnected, .delegateReturned]

def secondConnect : List ClientEvent :=
  [.retryExpires, .runRetry, .connectDone none, .runNotification 0, .disconnect,
    .headerRead (some .operationAborted) 0, .runDisconnected, .delegateReturned]

theorem reusable_after_second_connect : ∃ c, Reach (step localhost 0x80000)
    (fun c e => destinationResolves localhost c e ∧ leavesRetry c e) {} c ∧
      c.firstConnect = true ∧ c.Quiescent ∧ c.Reusable := by
  obtain ⟨c, run, quiet⟩ := execWithin_any (step localhost 0x80000)
    (fun c e => destinationResolves localhost c e ∧ leavesRetry c e) {}
    (failedConnect ++ secondConnect) (fun c => decide (c.firstConnect = true ∧ c.Quiescent))
    (by decide +kernel)
  obtain ⟨first, quiet⟩ := of_decide_eq_true quiet
  exact ⟨c, run, first, quiet, quiescent_reusable_while_retries_run run quiet⟩

/-- Disconnect cancels the timer whose handler would have cleared
    m_in_disconnect_process. -/
theorem unusable_after_cancelled_retry : ¬ ∀ c : Client (BitVec 32),
    Reach (step localhost 0x80000) always {} c → c.Quiescent → c.Reusable := by
  intro all
  obtain ⟨c, run, stuck⟩ := execWithin_any (step localhost 0x80000)
    (destinationResolves localhost) {} (failedConnect ++ [.disconnect, .runRetryAborted])
    (fun c => decide (c.Quiescent ∧ c.inDisconnectProcess = true)) (by decide +kernel)
  obtain ⟨quiet, process⟩ := of_decide_eq_true stuck
  have settled := (all c (reach_weaken (fun _ _ _ => trivial) run) quiet).process
  rw [process] at settled
  contradiction

end Client

end LaluneServer.NetLib
