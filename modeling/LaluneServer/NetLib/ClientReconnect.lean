import LaluneServer.NetLib.ClientTurns

/- The first reconnect of an outage. disconnected() reconnects at once when m_currently_retries
   is 0 and m_first_connect is false; connected_handler clears m_first_connect only when
   ConnectAsync connects at its first attempt. -/
namespace LaluneServer.NetLib
open DeadlineTimer Transition

def ClientEvent.staysEnabled : ClientEvent → Prop
  | .disableReconnect => False
  | .enableReconnect retries => retries ≠ 0
  | _ => True

instance : (e : ClientEvent) → Decidable e.staysEnabled
  | .disableReconnect => isFalse id
  | .enableReconnect retries => inferInstanceAs (Decidable (retries ≠ 0))
  | .connectAsync .. | .disconnect | .sendAsync .. | .sendCopyAsync .. | .resetFailedData
  | .connectDone _ | .headerRead .. | .bodyRead .. | .recvHandlerReturned | .writeDone _
  | .runSendFinish _ | .runDisconnected | .setWillReconnect _ | .delegateReturned
  | .runNotification _ | .keepAliveExpires | .runKeepAlive | .runKeepAliveAborted
  | .retryExpires | .runRetry | .runRetryAborted | .destroy => isTrue trivial

namespace Client
variable {Address : Type*} (net : Addresses Address) (maxPacketSize : Nat) (c : Client Address)

/-- A connection that was established and that the user has not left. -/
def Established : Prop := c.connectedSession ≠ none ∧ c.manuallyDisconnect = false

def StartsAtOnce : Prop := c.connects ≠ [] ∧ c.reconnectRetryTimer.live = 0

/-- What NetLib.h says about the attempts of an outage: disconnected() announces the first one,
    starts it at once unless the delegate vetoes it, and lets the later ones wait. -/
structure FirstAtOnce : Prop where
  announced : ∀ d, c.step net maxPacketSize .runDisconnected = some d → c.Established →
    d.running = some (.disconnected true)
  atOnce : ∀ d, c.step net maxPacketSize .delegateReturned = some d →
    c.running = some (.disconnected true) → c.Established → d.StartsAtOnce
  later : ∀ d, c.step net maxPacketSize .delegateReturned = some d →
    c.running = some (.reconnectFailed true) →
    d.connects = [] ∧ (c.willReconnectIfDisconnected = true → d.reconnectRetryTimer.pending = 1)

/-- A number of retries is not below -1, and no retry of a first connect succeeds. -/
def connectsDirectly : ClientEvent → Prop
  | .enableReconnect retries => -1 ≤ retries
  | .connectDone none =>
    c.manuallyDisconnect = true ∨ c.firstConnect = false ∨ c.currentlyRetries = 0
  | _ => True

instance (c : Client Address) : (e : ClientEvent) → Decidable (c.connectsDirectly e)
  | .enableReconnect retries => inferInstanceAs (Decidable (-1 ≤ retries))
  | .connectDone none => inferInstanceAs (Decidable (_ = true ∨ _ = false ∨ _ = (0 : Int)))
  | .connectAsync .. | .disconnect | .disableReconnect | .sendAsync .. | .sendCopyAsync ..
  | .resetFailedData | .connectDone (some _) | .headerRead .. | .bodyRead ..
  | .recvHandlerReturned | .writeDone _ | .runSendFinish _ | .runDisconnected
  | .setWillReconnect _ | .delegateReturned | .runNotification _ | .keepAliveExpires
  | .runKeepAlive | .runKeepAliveAborted | .retryExpires | .runRetry | .runRetryAborted
  | .destroy => isTrue trivial

end Client

namespace Client
variable {Address : Type*} {net : Addresses Address} {maxPacketSize : Nat} {c d : Client Address}
  {e : ClientEvent} {p q : Phase}

theorem accept_sessionless (session : c.connectedSession = none) (data : Bytes) (copy : Bool)
    (pHint : BitVec 64) : (c.accept data copy pHint).connectedSession = none := by
  obtain ⟨_, _, kept⟩ := accept_ledger c data copy pHint
  exact kept.session session

theorem sessionless_step (session : c.connectedSession = none)
    (other : ∀ error, e ≠ .connectDone error) (moved : step net maxPacketSize c e = some d) :
    d.connectedSession = none := by
  cases still : e.movesPackets with
  | false =>
    rcases (step_sameQueues still moved).session with ⟨_, none⟩ | ⟨s, _, some, _⟩
    · exact none
    · rw [session] at some
      contradiction
  | true =>
    cases occurs_of_step moved with
    | sendAsync data pHint => exact accept_sessionless session data false pHint
    | sendCopyAsync data pHint => exact accept_sessionless session _ true pHint
    | @delegateReturned r running => exact (sameLedger_delegateReturned c r).session session
    | connectDone error pending => exact absurd rfl (other error)
    | writeDone error some taken done =>
      rw [session] at some
      contradiction
    | @runKeepAlive timer taken =>
      exact accept_sessionless (c := { c with keepAliveTimer := timer }) session _ true 0
    | _ => first | exact session | contradiction

structure Wanting (c : Client Address) : Prop where
  enabled : c.enableReconnect = true
  will : c.Established → c.willReconnectIfDisconnected = true
  retries : c.maxContinuousRetries ≠ 0

structure Direct (c : Client Address) : Prop where
  known : c.connectedSession ≠ none → c.firstConnect = false
  retries : -1 ≤ c.maxContinuousRetries

theorem Wanting.keep (wanting : c.Wanting) (session : c.connectedSession = none →
      d.connectedSession = none) (manual : d.manuallyDisconnect = c.manuallyDisconnect)
    (will : d.willReconnectIfDisconnected = c.willReconnectIfDisconnected)
    (enabled : d.enableReconnect = c.enableReconnect)
    (retries : d.maxContinuousRetries = c.maxContinuousRetries) : d.Wanting := by
  refine ⟨enabled.trans wanting.enabled, ?_, fun zero => wanting.retries (retries.symm.trans zero)⟩
  rintro ⟨some, kept⟩
  exact will.trans (wanting.will ⟨fun none => some (session none), manual.symm.trans kept⟩)

theorem session_before (other : ∀ error, e ≠ .connectDone error)
    (moved : step net maxPacketSize c e = some d) :
    c.connectedSession = none → d.connectedSession = none :=
  fun session => sessionless_step session other moved

theorem wanting_step (sound : Sound net p c) (wanting : c.Wanting) (stays : e.staysEnabled)
    (moved : step net maxPacketSize c e = some d) : d.Wanting := by
  have enabled (same : d.enableReconnect = c.enableReconnect) : d.enableReconnect = true :=
    same.trans wanting.enabled
  have retries (same : d.maxContinuousRetries = c.maxContinuousRetries) :
      d.maxContinuousRetries ≠ 0 := by
    rw [same]
    exact wanting.retries
  cases turns_of_step sound moved with
  | stays still settings =>
    refine wanting.keep (session_before ?_ moved) (congrArg Settings.manual settings)
      (congrArg Settings.willReconnect settings) (congrArg Settings.enableReconnect settings)
      (congrArg Settings.maxContinuousRetries settings)
    rintro error rfl
    contradiction
  | refused destination port flags refused same =>
    rw [same]
    exact wanting
  | accepted destination port flags accepted settings =>
    obtain rfl := (accepts_iff_idle sound).mp accepted
    have session := sessionless_step sound.phase.session (by simp) moved
    refine ⟨enabled (congrArg Settings.enableReconnect settings),
      fun established => absurd session established.1, ?_⟩
    exact retries (congrArg Settings.maxContinuousRetries settings)
  | disconnect retry settings =>
    refine ⟨enabled (congrArg Settings.enableReconnect settings), ?_, ?_⟩
    · rintro ⟨_, kept⟩
      have left : d.manuallyDisconnect = true := congrArg Settings.manual settings
      rw [left] at kept
      contradiction
    · exact retries (congrArg Settings.maxContinuousRetries settings)
  | disableReconnect settings => contradiction
  | enableReconnect number settings =>
    refine ⟨congrArg Settings.enableReconnect settings, ?_, ?_⟩
    · rintro ⟨some, kept⟩
      refine (congrArg Settings.willReconnect settings).trans (wanting.will ⟨?_, ?_⟩)
      · exact fun none => some (session_before (by simp) moved none)
      · exact (congrArg Settings.manual settings).symm.trans kept
    · exact fun zero => stays ((congrArg Settings.maxContinuousRetries settings).symm.trans zero)
  | failed error others session settings =>
    refine ⟨enabled (congrArg Settings.enableReconnect settings),
      fun established => absurd session established.1, ?_⟩
    exact retries (congrArg Settings.maxContinuousRetries settings)
  | established others wanted session settings =>
    refine ⟨enabled (congrArg Settings.enableReconnect settings), fun _ => ?_, ?_⟩
    · refine (congrArg Settings.willReconnect settings).trans ?_
      rw [wanting.enabled]
      rfl
    · exact retries (congrArg Settings.maxContinuousRetries settings)
  | waits running flag wanted later session settings
  | connects running flag wanted fresh known session settings
  | ends running flag unwanted session settings =>
    refine ⟨enabled (congrArg Settings.enableReconnect settings),
      fun established => absurd session established.1, ?_⟩
    exact retries (congrArg Settings.maxContinuousRetries settings)
  | sendFinish index packet free settings | reports posted settings
  | decides will running written settings | finished running settings
  | expires fired settings | pulses taken settings | aborts taken settings
  | destroys unused settings =>
    exact wanting.keep (session_before (by simp) moved) (congrArg Settings.manual settings)
      (congrArg Settings.willReconnect settings) (congrArg Settings.enableReconnect settings)
      (congrArg Settings.maxContinuousRetries settings)

theorem direct_step (sound : Sound net p c) (direct : c.Direct) (directly : c.connectsDirectly e)
    (moved : step net maxPacketSize c e = some d) : d.Direct := by
  have keep (before : c.connectedSession = none → d.connectedSession = none)
      (first : d.firstConnect = c.firstConnect)
      (retries : d.maxContinuousRetries = c.maxContinuousRetries) : d.Direct := by
    refine ⟨fun some => first.trans (direct.known fun none => some (before none)), ?_⟩
    rw [retries]
    exact direct.retries
  cases turns_of_step sound moved with
  | stays still settings =>
    refine keep (session_before ?_ moved) (congrArg Settings.firstConnect settings)
      (congrArg Settings.maxContinuousRetries settings)
    rintro error rfl
    contradiction
  | refused destination port flags refused same =>
    rw [same]
    exact direct
  | disableReconnect settings =>
    have retries : d.maxContinuousRetries = 0 := congrArg Settings.maxContinuousRetries settings
    refine ⟨fun some => (congrArg Settings.firstConnect settings).trans
      (direct.known fun none => some (session_before (by simp) moved none)), ?_⟩
    omega
  | enableReconnect retries settings =>
    have number : d.maxContinuousRetries = retries :=
      congrArg Settings.maxContinuousRetries settings
    refine ⟨fun some => (congrArg Settings.firstConnect settings).trans
      (direct.known fun none => some (session_before (by simp) moved none)), ?_⟩
    rw [number]
    exact directly
  | failed error others session settings =>
    exact keep (fun _ => session) (congrArg Settings.firstConnect settings)
      (congrArg Settings.maxContinuousRetries settings)
  | established others wanted session settings =>
    have retries : d.maxContinuousRetries = c.maxContinuousRetries :=
      congrArg Settings.maxContinuousRetries settings
    refine ⟨fun _ => (congrArg Settings.firstConnect settings).trans ?_, ?_⟩
    · rcases directly with left | known | fresh
      · rw [left] at wanted
        contradiction
      · simp only [known, Bool.false_and]
      · simp only [fresh, ne_eq, not_true, decide_false, Bool.and_false]
    · rw [retries]
      exact direct.retries
  | accepted destination port flags accepted settings | disconnect retry settings
  | waits running flag wanted later session settings
  | connects running flag wanted fresh known session settings
  | ends running flag unwanted session settings
  | sendFinish index packet free settings | reports posted settings
  | decides will running written settings | finished running settings
  | expires fired settings | pulses taken settings | aborts taken settings
  | destroys unused settings =>
    exact keep (session_before (by simp) moved) (congrArg Settings.firstConnect settings)
      (congrArg Settings.maxContinuousRetries settings)

/-- A connection that has ended was established in a loop of retries that is over. -/
theorem retries_of_session (sound : Sound net p c) (session : c.connectedSession ≠ none) :
    c.currentlyRetries = 0 := by
  rcases active_or_gone sound with rfl | detached | ended
  · obtain ⟨s, active, _⟩ := sound.phase
    exact active.retries
  · exact absurd detached.session session
  · obtain ⟨s, some⟩ := Option.ne_none_iff_exists'.mp session
    exact (ended.closed s some).2.2

/-- disconnected() announces a retry when the number of retries allows one. -/
theorem announced_iff (sound : Sound net p c) (wanting : c.Wanting) (established : c.Established)
    (moved : step net maxPacketSize c .runDisconnected = some d) :
    d.running = some (.disconnected true) ↔ -1 ≤ c.maxContinuousRetries := by
  have fresh := retries_of_session sound established.1
  have some_retries := wanting.retries
  cases turns_of_step sound moved with
  | stays still settings => contradiction
  | reports posted settings =>
    have running : d.running = some (.disconnected c.willContinueReconnect) := by
      refine (congrArg Settings.running settings).trans ?_
      rw [if_pos fresh]
    rw [running, Option.some.injEq, Running.disconnected.injEq]
    unfold willContinueReconnect
    rw [wanting.will established, fresh]
    simp only [Bool.true_and, Bool.or_eq_true, decide_eq_true_eq]
    omega

theorem reporting_disconnected (sound : Sound net p c) {will : Bool}
    (running : c.running = some (.disconnected will)) :
    p = .reporting ∧ c.currentlyRetries = 0 := by
  obtain rfl := reporting_of_running sound running (by simp)
  obtain ⟨_, ⟨_, fresh⟩ | ⟨other, _⟩⟩ := sound.phase.running
  · exact ⟨rfl, fresh⟩
  · cases Option.some.inj (running.symm.trans other)

theorem reporting_reconnectFailed (sound : Sound net p c) {will : Bool}
    (running : c.running = some (.reconnectFailed will)) :
    p = .reporting ∧ c.currentlyRetries ≠ 0 := by
  obtain rfl := reporting_of_running sound running (by simp)
  obtain ⟨_, ⟨other, _⟩ | ⟨_, _, again⟩⟩ := sound.phase.running
  · cases Option.some.inj (running.symm.trans other)
  · exact ⟨rfl, again⟩

theorem startsAtOnce_connects (sound : Sound net .reporting c)
    (moved : step net maxPacketSize c .delegateReturned = some d) (running : d.running = none)
    (retries : d.currentlyRetries = c.currentlyRetries + 1)
    (retry : d.reconnectRetryTimer = c.reconnectRetryTimer) : d.StartsAtOnce := by
  have positive := sound.retries
  obtain ⟨q, next, after, _⟩ := step_follows sound moved
  cases next with
  | stay => exact absurd running (reporting_busy after.phase)
  | reset =>
    have zero := after.phase.retries
    omega
  | retryAtOnce =>
    refine ⟨?_, after.phase.retry⟩
    have one := after.phase.connects
    intro none
    rw [none] at one
    contradiction
  | retryLater =>
    have one := after.phase.retry
    rw [retry, sound.phase.retry] at one
    contradiction

/-- The first attempt of an outage starts at once if and only if m_first_connect is cleared. -/
theorem startsAtOnce_iff (sound : Sound net p c) (wanting : c.Wanting)
    (established : c.Established) (running : c.running = some (.disconnected true))
    (moved : step net maxPacketSize c .delegateReturned = some d) :
    d.StartsAtOnce ↔ c.firstConnect = false := by
  obtain ⟨rfl, fresh⟩ := reporting_disconnected sound running
  cases turns_of_step sound moved with
  | stays still settings => contradiction
  | finished other => cases Option.some.inj (running.symm.trans other)
  | waits other flag wanted later session settings =>
    have first : c.firstConnect = true := later.resolve_left (fun some => some fresh)
    have armed : d.reconnectRetryTimer.live ≠ 0 := by
      have retry : d.reconnectRetryTimer = c.reconnectRetryTimer.expiresFromNow :=
        congrArg Settings.retry settings
      rw [retry, Timer.expiresFromNow_live]
      exact Nat.succ_ne_zero _
    rw [first]
    exact ⟨fun starts => absurd starts.2 armed, fun no => by contradiction⟩
  | connects other flag wanted fresh known session settings =>
    refine ⟨fun _ => known, fun _ => startsAtOnce_connects sound moved ?_ ?_ ?_⟩
    · exact congrArg Settings.running settings
    · exact congrArg Settings.currentlyRetries settings
    · exact congrArg Settings.retry settings
  | ends other flag unwanted session settings =>
    obtain rfl := Option.some.inj (running.symm.trans other)
    cases flag
    exact absurd ⟨wanting.will established, rfl⟩ unwanted

theorem waits_of_reconnectFailed (sound : Sound net p c)
    (running : c.running = some (.reconnectFailed true))
    (moved : step net maxPacketSize c .delegateReturned = some d) : d.connects = [] ∧
      (c.willReconnectIfDisconnected = true → d.reconnectRetryTimer.pending = 1) := by
  obtain ⟨rfl, again⟩ := reporting_reconnectFailed sound running
  have none := sound.phase.connects
  cases turns_of_step sound moved with
  | stays still settings => contradiction
  | finished other => cases Option.some.inj (running.symm.trans other)
  | waits other flag wanted later session settings =>
    refine ⟨(congrArg Settings.connects settings).trans none, fun _ => ?_⟩
    exact congrArg Timer.pending (congrArg Settings.retry settings)
  | connects other flag wanted fresh known session settings => exact absurd fresh again
  | ends other flag unwanted session settings =>
    refine ⟨(congrArg Settings.connects settings).trans none, fun wanted => ?_⟩
    obtain rfl := Option.some.inj (running.symm.trans other)
    cases flag
    exact absurd ⟨wanted, rfl⟩ unwanted

theorem reach_wanting (run : Reach (step net maxPacketSize) (fun _ e => e.staysEnabled) {} c) :
    (∃ p, Sound net p c) ∧ c.Wanting := by
  refine reach_invariant (fun c => (∃ p, Sound net p c) ∧ c.Wanting) ?_ ?_ run
  · exact ⟨⟨.idle, sound_initial net⟩, rfl, fun established => absurd rfl established.1,
      (by decide : (-1 : Int) ≠ 0)⟩
  · rintro b e t ⟨⟨p, sound⟩, wanting⟩ stays moved
    obtain ⟨q, follows⟩ := step_follows sound moved
    exact ⟨⟨q, follows.sound⟩, wanting_step sound wanting stays moved⟩

theorem reach_direct (run : Reach (step net maxPacketSize)
    (fun c e => e.staysEnabled ∧ c.connectsDirectly e) {} c) : c.Direct := by
  have inv : (∃ p, Sound net p c) ∧ c.Direct := by
    refine reach_invariant (fun c => (∃ p, Sound net p c) ∧ c.Direct) ?_ ?_ run
    · exact ⟨⟨.idle, sound_initial net⟩, fun some => absurd rfl some, Int.le_refl (-1)⟩
    · rintro b e t ⟨⟨p, sound⟩, direct⟩ ⟨_, directly⟩ moved
      obtain ⟨q, follows⟩ := step_follows sound moved
      exact ⟨⟨q, follows.sound⟩, direct_step sound direct directly moved⟩
  exact inv.2

/-- In every run with reconnecting enabled, the first attempt of an outage is announced exactly
    when the number of retries is not below -1, and starts at once exactly when
    m_first_connect is cleared. The rule of NetLib.h holds in the runs in which no retry of a
    first connect succeeds. -/
theorem first_reconnect_at_once (net : Addresses Address) (maxPacketSize : Nat) :
    (∀ c, Reach (step net maxPacketSize) (fun c e => e.staysEnabled ∧ c.connectsDirectly e) {} c →
      c.FirstAtOnce net maxPacketSize) ∧
    ∀ c d, Reach (step net maxPacketSize) (fun _ e => e.staysEnabled) {} c → c.Established →
      (step net maxPacketSize c .runDisconnected = some d →
        (d.running = some (.disconnected true) ↔ -1 ≤ c.maxContinuousRetries)) ∧
      (step net maxPacketSize c .delegateReturned = some d →
        c.running = some (.disconnected true) → (d.StartsAtOnce ↔ c.firstConnect = false)) := by
  refine ⟨?_, ?_⟩
  · intro c run
    have direct := reach_direct run
    obtain ⟨⟨p, sound⟩, wanting⟩ := reach_wanting (reach_weaken (fun _ _ both => both.1) run)
    refine ⟨?_, ?_, ?_⟩
    · intro d moved established
      exact (announced_iff sound wanting established moved).mpr direct.retries
    · intro d moved running established
      exact (startsAtOnce_iff sound wanting established running moved).mpr
        (direct.known established.1)
    · intro d moved running
      exact waits_of_reconnectFailed sound running moved
  · intro c d run established
    obtain ⟨⟨p, sound⟩, wanting⟩ := reach_wanting run
    refine ⟨?_, ?_⟩
    · exact fun moved => announced_iff sound wanting established moved
    · exact fun moved running => startsAtOnce_iff sound wanting established running moved

def droppedConnection : List ClientEvent :=
  [.connectDone none, .headerRead (some .eof) 0, .runDisconnected]

theorem reconnects_at_once_after_first_connect : ∃ c d : Client (BitVec 32),
    step localhost 0x80000 c .delegateReturned = some d ∧
      c.running = some (.disconnected true) ∧ d.StartsAtOnce ∧ c.FirstAtOnce localhost 0x80000 := by
  obtain ⟨c, run, test⟩ := execWithin_any (step localhost 0x80000)
    (fun c e => e.staysEnabled ∧ c.connectsDirectly e) {}
    ([.connectAsync (.ip "127.0.0.1") 80 0] ++ droppedConnection)
    (fun c => decide (c.running = some (.disconnected true) ∧ c.connectedSession ≠ none ∧
      c.manuallyDisconnect = false) && (step localhost 0x80000 c .delegateReturned).isSome)
    (by decide +kernel)
  rw [Bool.and_eq_true] at test
  obtain ⟨running, established⟩ := of_decide_eq_true test.1
  obtain ⟨d, moved⟩ := Option.isSome_iff_exists.mp test.2
  have first := (first_reconnect_at_once localhost 0x80000).1 c run
  exact ⟨c, d, moved, running, first.atOnce d moved running established, first⟩

/-- The first connect succeeds at its first retry; when the connection drops, the client waits
    before it reconnects. -/
theorem reconnect_waits_after_first_retry : ¬ ∀ c : Client (BitVec 32),
    Reach (step localhost 0x80000) (fun _ e => e.staysEnabled) {} c →
      c.FirstAtOnce localhost 0x80000 := by
  intro all
  obtain ⟨c, run, test⟩ := execWithin_any (step localhost 0x80000) (fun _ e => e.staysEnabled) {}
    (failedConnect ++ [.retryExpires, .runRetry] ++ droppedConnection)
    (fun c => decide (c.running = some (.disconnected true) ∧ c.connectedSession ≠ none ∧
      c.manuallyDisconnect = false) &&
      (step localhost 0x80000 c .delegateReturned).any (fun d => d.connects.isEmpty))
    (by decide +kernel)
  rw [Bool.and_eq_true] at test
  obtain ⟨running, established⟩ := of_decide_eq_true test.1
  obtain ⟨d, moved, none⟩ := (Option.any_eq_true _ _).mp test.2
  exact ((all c run).atOnce d moved running established).1 (List.isEmpty_iff.mp none)

end Client

end LaluneServer.NetLib
