import LaluneServer.NetLib.ClientReconnect

/- The retries between two connections. m_currently_retries counts them and also tells a first
   failure from a failed retry; what disconnected() announces to the delegate is what
   reconnect_retry_timer or the immediate reconnect then does. -/
namespace LaluneServer.NetLib
open DeadlineTimer Transition

/-- ConnectAsync has a non-zero address, EnableReconnect does not change the number of retries
    and the delegate leaves its flag as it is. -/
def ClientEvent.keepsBudget (budget : Int) : ClientEvent → Prop
  | .connectAsync (.ipNumber value) _ _ => value ≠ 0
  | .connectAsync (.ip _) _ _ => False
  | .enableReconnect retries => retries = budget
  | .setWillReconnect _ => False
  | _ => True

instance (budget : Int) : (e : ClientEvent) → Decidable (e.keepsBudget budget)
  | .connectAsync (.ipNumber value) _ _ => inferInstanceAs (Decidable (value ≠ 0))
  | .connectAsync (.ip _) _ _ | .setWillReconnect _ => isFalse id
  | .enableReconnect retries => inferInstanceAs (Decidable (retries = budget))
  | .disconnect | .disableReconnect | .sendAsync .. | .sendCopyAsync .. | .resetFailedData
  | .connectDone _ | .headerRead .. | .bodyRead .. | .recvHandlerReturned | .writeDone _
  | .runSendFinish _ | .runDisconnected | .delegateReturned | .runNotification _
  | .keepAliveExpires | .runKeepAlive | .runKeepAliveAborted | .retryExpires | .runRetry
  | .runRetryAborted | .destroy => isTrue trivial

namespace Client
variable {Address : Type*} (c d : Client Address)

def automaticAttempts (e : ClientEvent) : Nat :=
  if e.destination.isSome then 0 else c.attempts d e

def opensSession : ClientEvent → Bool
  | .connectDone none => d.connectedSession.isSome
  | _ => false

end Client

/-- A client with the automatic attempts since its last connection or accepted ConnectAsync, the
    flag that disconnected() passed to the delegate and that no attempt has followed yet, and
    whether Disconnect or DisableReconnect was called since. -/
structure RetryRun (Address : Type*) where
  client : Client Address := {}
  attempts : Nat := 0
  flag : Option Bool := none
  cancelled : Bool := false

namespace RetryRun
variable {Address : Type*} (net : Addresses Address) (maxPacketSize : Nat) (w : RetryRun Address)

def step (e : ClientEvent) : Option (RetryRun Address) :=
  (w.client.step net maxPacketSize e).map fun client =>
    { client := client
      attempts :=
        if w.client.connectsAnew e || client.opensSession e then 0
        else w.attempts + w.client.automaticAttempts client e
      flag :=
        if e = .runDisconnected then client.running.bind Running.flag
        else if w.client.connectsAnew e || 0 < w.client.automaticAttempts client e then none
        else w.flag
      cancelled := e.cancels || w.cancelled && e ≠ .runDisconnected }

structure WithinBudget (budget : Int) : Prop where
  attempts : w.attempts ≤ budget
  reported : ∀ v, w.step net maxPacketSize .runDisconnected = some v →
    ∃ will, v.flag = some will ∧ v.client.running =
      some (if w.attempts = 0 then .disconnected will else .reconnectFailed will)
  announced : ∀ e v, e.keepsBudget budget → w.step net maxPacketSize e = some v →
    w.attempts < v.attempts → w.flag = some true
  stands : w.flag = some true → w.cancelled = false → ∀ e v, w.step net maxPacketSize e = some v →
    v.flag = some true ∧ v.cancelled = e.cancels ∧ v.attempts = w.attempts ∨
      v.attempts = w.attempts + 1
  follows : w.flag = some true → w.cancelled = false → ∃ es v,
    (∀ e ∈ es, e.isHandler = true) ∧ exec (step net maxPacketSize) w es = some v ∧
      v.attempts = w.attempts + 1

end RetryRun

namespace RetryRun
variable {Address : Type*} {net : Addresses Address} {maxPacketSize : Nat}
  {w v : RetryRun Address} {d : Client Address} {e : ClientEvent} {p q : Phase} {budget : Int}

/-- The counter of the client is the number of attempts, and the flag stands for an attempt
    that is still allowed. -/
structure Counted (net : Addresses Address) (budget : Int) (p : Phase) (w : RetryRun Address) :
    Prop where
  sound : Client.Sound net p w.client
  resolved : p ≠ .unresolved
  maximum : w.client.maxContinuousRetries = budget ∨ w.client.maxContinuousRetries = 0
  attempts : w.attempts ≤ budget
  level : p ≠ .idle → p ≠ .stuck → w.client.currentlyRetries = w.attempts
  reporting : ∀ r will, w.client.running = some r → r.flag = some will →
    w.flag = some will ∧ (will = true → w.attempts < budget ∧
      (w.cancelled = false → w.client.willReconnectIfDisconnected = true))
  waiting : p = .waiting → w.flag = some true ∧ w.attempts < budget
  due : w.flag = some true → w.cancelled = false → p = .reporting ∨ p = .waiting
  alive : p = .reporting ∨ p = .waiting → w.client.destroyed = false

theorem stepped_of_step (moved : w.step net maxPacketSize e = some v) :
    w.client.step net maxPacketSize e = some v.client := by
  obtain ⟨client, stepped, rfl⟩ := Option.map_eq_some_iff.mp moved
  exact stepped

theorem step_quiet (moved : w.step net maxPacketSize e = some v) (report : e ≠ .runDisconnected)
    (anew : w.client.connectsAnew e = false) (opens : v.client.opensSession e = false)
    (attempts : w.client.automaticAttempts v.client e = 0) :
    v = { w with client := v.client, cancelled := e.cancels || w.cancelled } := by
  obtain ⟨client, stepped, rfl⟩ := Option.map_eq_some_iff.mp moved
  simp only at opens attempts
  simp [report, anew, opens, attempts]

theorem step_opens (moved : w.step net maxPacketSize (.connectDone none) = some v)
    (session : v.client.connectedSession ≠ none)
    (attempts : w.client.automaticAttempts v.client (.connectDone none) = 0) :
    v = { w with client := v.client, attempts := 0 } := by
  obtain ⟨client, stepped, rfl⟩ := Option.map_eq_some_iff.mp moved
  have opens : client.opensSession (.connectDone none) = true :=
    Option.isSome_iff_ne_none.mpr session
  simp only at attempts
  simp [opens, attempts, Client.connectsAnew, ClientEvent.cancels]

theorem step_reports (moved : w.step net maxPacketSize .runDisconnected = some v)
    (attempts : w.client.automaticAttempts v.client .runDisconnected = 0) :
    v = { client := v.client, attempts := w.attempts,
          flag := v.client.running.bind Running.flag, cancelled := false } := by
  obtain ⟨client, stepped, rfl⟩ := Option.map_eq_some_iff.mp moved
  simp only at attempts
  simp [attempts, Client.connectsAnew, Client.opensSession, ClientEvent.cancels]

theorem automaticAttempts_same (c : Client Address) (connects : d.connects = c.connects)
    (done : e.connectsDone = 0) : c.automaticAttempts d e = 0 := by
  unfold Client.automaticAttempts
  split
  · rfl
  · exact Client.attempts_of_connects connects done

theorem counted_quiet (inv : Counted net budget p w) (moved : w.step net maxPacketSize e = some v)
    (follows : Client.Follows net p w.client e q v.client) (report : e ≠ .runDisconnected)
    (destination : e.destination = none) (done : e.connectsDone = 0)
    (connects : v.client.connects = w.client.connects)
    (running : v.client.running = w.client.running)
    (retries : v.client.currentlyRetries = w.client.currentlyRetries)
    (maximum : v.client.maxContinuousRetries = budget ∨ v.client.maxContinuousRetries = 0)
    (will : e.cancels = false →
      v.client.willReconnectIfDisconnected = w.client.willReconnectIfDisconnected)
    (alive : q = .reporting ∨ q = .waiting → v.client.destroyed = false) :
    Counted net budget q v ∧ v.attempts = w.attempts := by
  have fine := follows.resolved destination inv.resolved
  have next := Client.phase_of_sameCalls inv.sound follows.sound follows.next connects running
  have anew : w.client.connectsAnew e = false := by
    cases e <;> first | rfl | contradiction
  have opens : v.client.opensSession e = false := by
    cases e <;> first | rfl | contradiction
  have shape := step_quiet moved report anew opens (automaticAttempts_same w.client connects done)
  have sound := follows.sound
  have stuck : q = .stuck → p ≠ .stuck → e.cancels = true := by
    intro stuck other
    cases cancels : e.cancels with
    | true => rfl
    | false =>
      refine absurd stuck (follows.keptRetry ?_ ?_ other)
      · rintro rfl
        contradiction
      · rintro rfl
        contradiction
  generalize v.client = d at *
  subst shape
  refine ⟨⟨sound, fine, maximum, inv.attempts, ?_, ?_, ?_, ?_, alive⟩, rfl⟩
  · intro busy free
    rw [retries]
    rcases next with rfl | ⟨rfl, rfl⟩ | ⟨rfl, rfl⟩ | ⟨rfl, rfl⟩
    · exact inv.level busy free
    · exact inv.level (by decide) (by decide)
    · exact absurd rfl fine
    · exact absurd rfl free
  · intro r flag call reports
    obtain ⟨stands, allowed⟩ := inv.reporting r flag (running.symm.trans call) reports
    refine ⟨stands, fun again => ⟨(allowed again).1, fun kept => ?_⟩⟩
    rw [Bool.or_eq_false_iff] at kept
    exact (will kept.1).trans ((allowed again).2 kept.2)
  · rintro rfl
    rcases next with rfl | ⟨_, no⟩ | ⟨_, no⟩ | ⟨_, no⟩
    · exact inv.waiting rfl
    · contradiction
    · contradiction
    · contradiction
  · intro flag kept
    rw [Bool.or_eq_false_iff] at kept
    have due := inv.due flag kept.2
    rcases next with rfl | ⟨rfl, _⟩ | ⟨rfl, _⟩ | ⟨rfl, rfl⟩
    · exact due
    · rcases due with no | no <;> contradiction
    · rcases due with no | no <;> contradiction
    · have cancels := stuck rfl (by decide)
      rw [cancels] at kept
      exact absurd kept.1 (by decide)

theorem Counted.undue (inv : Counted net budget p w) (reporting : p ≠ .reporting)
    (waiting : p ≠ .waiting) (flag : w.flag = some true) : w.cancelled = true := by
  cases kept : w.cancelled with
  | true => rfl
  | false => exact absurd (inv.due flag kept) (by simp [reporting, waiting])

theorem counted_active (inv : Counted net budget p w) {cancelled : Bool}
    (working : p = .connecting ∨ p = .active) (after : Client.Sound net q d)
    (next : q = .active ∨ q = .ending) {attempts : Nat} (few : attempts ≤ budget)
    (level : d.currentlyRetries = attempts)
    (maximum : d.maxContinuousRetries = budget ∨ d.maxContinuousRetries = 0)
    (silent : ∀ r, d.running = some r → r.flag = none)
    (cancels : w.cancelled = true → cancelled = true) :
    Counted net budget q
      { client := d, attempts := attempts, flag := w.flag, cancelled := cancelled } := by
  have undue : w.flag = some true → w.cancelled = true := by
    refine inv.undue ?_ ?_
    · rcases working with rfl | rfl <;> decide
    · rcases working with rfl | rfl <;> decide
  have quiet : q ≠ .reporting ∧ q ≠ .waiting ∧ q ≠ .unresolved := by
    rcases next with rfl | rfl <;> decide
  refine ⟨after, quiet.2.2, maximum, few, fun _ _ => level, ?_, ?_, ?_, ?_⟩
  · intro r will running flag
    rw [silent r running] at flag
    contradiction
  · exact fun waiting => absurd waiting quiet.2.1
  · intro flag kept
    have cancelled := cancels (undue flag)
    rw [cancelled] at kept
    contradiction
  · rintro (reporting | waiting)
    · exact absurd reporting quiet.1
    · exact absurd waiting quiet.2.1

theorem counted_connectDone (inv : Counted net budget p w) (nonnegative : 0 ≤ budget)
    {error : Outcome} (moved : w.step net maxPacketSize (.connectDone error) = some v)
    (follows : Client.Follows net p w.client (.connectDone error) q v.client) :
    Counted net budget q v ∧ v.attempts ≤ w.attempts := by
  obtain ⟨client, stepped, rfl⟩ := Option.map_eq_some_iff.mp moved
  have pending : p = .connecting ∧ client.connects = [] := by
    cases Client.occurs_of_step stepped with
    | @connectDone _ first others pending =>
      obtain ⟨connecting, empty⟩ := Client.only_connect inv.sound pending
      exact ⟨connecting, (Client.connects_connectDone w.client others error).trans empty⟩
  obtain ⟨rfl, ended⟩ := pending
  have idle := inv.sound.phase.running
  have one := inv.sound.phase.connects
  have next : q = .active ∨ q = .ending := by
    cases follows.next with
    | stay =>
      have more := follows.sound.phase.connects
      rw [ended] at more
      contradiction
    | establish => exact .inl rfl
    | fail => exact .inr rfl
  have none : w.client.automaticAttempts client (.connectDone error) = 0 := by
    unfold Client.automaticAttempts Client.attempts
    rw [ended, one]
    rfl
  cases Client.turns_of_step inv.sound stepped with
  | stays still settings => contradiction
  | failed error others session settings =>
    have opens : client.opensSession (.connectDone error) = false := by
      cases error with
      | none => exact Option.isSome_eq_false_iff.mpr (Option.isNone_iff_eq_none.mpr session)
      | some code => rfl
    have shape := step_quiet moved (by simp) rfl opens none
    rw [shape]
    have retries : client.currentlyRetries = w.client.currentlyRetries :=
      congrArg Settings.currentlyRetries settings
    have maximum : client.maxContinuousRetries = w.client.maxContinuousRetries :=
      congrArg Settings.maxContinuousRetries settings
    refine ⟨counted_active inv (.inl rfl) follows.sound next inv.attempts ?_ ?_ ?_ id,
      Nat.le_refl _⟩
    · exact retries.trans (inv.level (by decide) (by decide))
    · exact maximum.symm ▸ inv.maximum
    · intro r running
      have same : client.running = w.client.running := congrArg Settings.running settings
      rw [same, idle] at running
      contradiction
  | established others wanted session settings =>
    have maximum : client.maxContinuousRetries = w.client.maxContinuousRetries :=
      congrArg Settings.maxContinuousRetries settings
    rw [step_opens moved session none]
    refine ⟨counted_active inv (.inl rfl) follows.sound next nonnegative ?_ ?_ ?_ id,
      Nat.zero_le _⟩
    · exact congrArg Settings.currentlyRetries settings
    · exact maximum.symm ▸ inv.maximum
    · intro r running
      have same : client.running = w.client.running := congrArg Settings.running settings
      rw [same, idle] at running
      contradiction

theorem counted_reports (inv : Counted net budget p w) (nonnegative : 0 ≤ budget)
    (moved : w.step net maxPacketSize .runDisconnected = some v)
    (follows : Client.Follows net p w.client .runDisconnected q v.client)
    (posted : w.client.disconnectedPosts ≠ 0)
    (settings : v.client.settings = { w.client.settings with
      running := some (if w.client.currentlyRetries = 0
        then .disconnected w.client.willContinueReconnect
        else .reconnectFailed w.client.willContinueReconnect) }) :
    Counted net budget q v ∧ v.attempts = w.attempts ∧
      v.flag = some w.client.willContinueReconnect := by
  have running : v.client.running = some (if w.client.currentlyRetries = 0
      then .disconnected w.client.willContinueReconnect
      else .reconnectFailed w.client.willContinueReconnect) := congrArg Settings.running settings
  have retries : v.client.currentlyRetries = w.client.currentlyRetries :=
    congrArg Settings.currentlyRetries settings
  have maximum : v.client.maxContinuousRetries = w.client.maxContinuousRetries :=
    congrArg Settings.maxContinuousRetries settings
  have will : v.client.willReconnectIfDisconnected = w.client.willReconnectIfDisconnected :=
    congrArg Settings.willReconnect settings
  have reports : q = .reporting := by
    refine Client.reporting_of_running follows.sound running ?_
    split <;> simp
  subst reports
  have ending : p = .ending := by
    cases follows.next with
    | stay => exact absurd inv.sound.phase.posts posted
    | report => rfl
  subst ending
  have level := inv.level (by decide) (by decide)
  have alive : v.client.destroyed = false :=
    (congrArg Settings.destroyed settings).trans (Client.alive_of_step (stepped_of_step moved))
  have flag : v.client.running.bind Running.flag = some w.client.willContinueReconnect := by
    rw [running]
    split <;> rfl
  have few : w.client.willContinueReconnect = true → w.attempts < budget := by
    intro again
    unfold Client.willContinueReconnect at again
    simp only [Bool.and_eq_true, Bool.or_eq_true, decide_eq_true_eq] at again
    have limit := inv.maximum
    omega
  have shape := step_reports moved
    (automaticAttempts_same w.client (congrArg Settings.connects settings) rfl)
  have sound := follows.sound
  generalize v.client = d at *
  subst shape
  refine ⟨⟨sound, by decide, ?_, inv.attempts, fun _ _ => retries.trans level, ?_,
    fun no => by contradiction, fun _ _ => .inl rfl, fun _ => alive⟩, rfl, flag⟩
  · exact maximum.symm ▸ inv.maximum
  · intro r flagged call reported
    have again : d.running.bind Running.flag = some flagged := by
      rw [call]
      exact reported
    have same := Option.some.inj (again.symm.trans flag)
    refine ⟨again, fun yes => ⟨few (same.symm.trans yes), fun _ => will.trans ?_⟩⟩
    have continues := same.symm.trans yes
    unfold Client.willContinueReconnect at continues
    exact (Bool.and_eq_true_iff.mp continues).1

theorem counted_attempt (inv : Counted net budget p w) (moved : w.step net maxPacketSize e = some v)
    (automatic : e = .delegateReturned ∨ e = .runRetry) (idle : w.client.connects = [])
    (after : Client.Sound net .connecting v.client) (few : w.attempts < budget)
    (level : w.client.currentlyRetries = w.attempts)
    (retries : v.client.currentlyRetries = w.client.currentlyRetries + 1)
    (maximum : v.client.maxContinuousRetries = w.client.maxContinuousRetries) :
    Counted net budget .connecting v ∧ v.attempts = w.attempts + 1 := by
  have one : w.client.automaticAttempts v.client e = 1 := by
    have connects := after.phase.connects
    rcases automatic with rfl | rfl
    · simp [Client.automaticAttempts, ClientEvent.destination, Client.attempts,
        ClientEvent.connectsDone, connects, idle]
    · simp [Client.automaticAttempts, ClientEvent.destination, Client.attempts,
        ClientEvent.connectsDone, connects, idle]
  have shape : v.attempts = w.attempts + 1 ∧ v.flag = none := by
    obtain ⟨client, stepped, rfl⟩ := Option.map_eq_some_iff.mp moved
    have one : w.client.automaticAttempts client e = 1 := one
    rcases automatic with rfl | rfl
    · simp [one, Client.connectsAnew, Client.opensSession]
    · simp [one, Client.connectsAnew, Client.opensSession]
  obtain ⟨attempts, flag⟩ := shape
  have running := after.phase.running
  refine ⟨⟨after, by decide, ?_, ?_, ?_, ?_, fun no => by contradiction, ?_, ?_⟩, attempts⟩
  · exact maximum.symm ▸ inv.maximum
  · omega
  · intro _ _
    omega
  · intro r will call _
    rw [running] at call
    contradiction
  · intro stands
    rw [flag] at stands
    contradiction
  · rintro (no | no) <;> contradiction

theorem step_returned (moved : w.step net maxPacketSize .delegateReturned = some v)
    (connects : v.client.connects = w.client.connects) :
    v = { w with client := v.client, cancelled := w.cancelled } :=
  step_quiet moved (by simp) rfl rfl (automaticAttempts_same w.client connects rfl)

theorem reporting_of_flag (sound : Client.Sound net p w.client) {r : Running} {will : Bool}
    (running : w.client.running = some r) (flag : r.flag = some will) : p = .reporting := by
  refine Client.reporting_of_running sound running ?_
  rintro packet rfl
  contradiction

theorem counted_finished (inv : Counted net budget p w)
    (moved : w.step net maxPacketSize .delegateReturned = some v)
    (follows : Client.Follows net p w.client .delegateReturned q v.client)
    {packet : NetlibPacket} (running : w.client.running = some (.sendFinish packet))
    (settings : v.client.settings = { w.client.settings with running := none }) :
    Counted net budget q v ∧ v.attempts = w.attempts := by
  obtain rfl : p = .active := by
    rcases Client.phase_of_running inv.sound running with ⟨active, _⟩ | ⟨_, other⟩
    · exact active
    · exact absurd rfl (other _)
  have next : q = .active ∨ q = .ending := by
    cases follows.next with
    | stay => exact .inl rfl
    | close => exact .inr rfl
  have after := follows.sound
  have shape := step_returned moved (congrArg Settings.connects settings)
  have retries : v.client.currentlyRetries = w.client.currentlyRetries :=
    congrArg Settings.currentlyRetries settings
  have maximum : v.client.maxContinuousRetries = w.client.maxContinuousRetries :=
    congrArg Settings.maxContinuousRetries settings
  have none : v.client.running = none := congrArg Settings.running settings
  generalize v.client = d at *
  subst shape
  refine ⟨counted_active inv (.inr rfl) after next inv.attempts ?_ (maximum.symm ▸ inv.maximum)
    ?_ id, rfl⟩
  · exact retries.trans (inv.level (by decide) (by decide))
  · intro r call
    rw [none] at call
    contradiction

theorem counted_waits (inv : Counted net budget p w)
    (moved : w.step net maxPacketSize .delegateReturned = some v)
    (follows : Client.Follows net p w.client .delegateReturned q v.client) {r : Running}
    (running : w.client.running = some r) (flag : r.flag = some true)
    (settings : v.client.settings = { w.client.settings with
      running := none
      retry := w.client.reconnectRetryTimer.expiresFromNow }) :
    Counted net budget q v ∧ v.attempts = w.attempts := by
  have alive := Client.alive_of_step (stepped_of_step moved)
  obtain rfl := reporting_of_flag inv.sound running flag
  obtain ⟨stands, allowed⟩ := inv.reporting _ _ running flag
  have after := follows.sound
  have armed : v.client.reconnectRetryTimer.live ≠ 0 := by
    have retry : v.client.reconnectRetryTimer = w.client.reconnectRetryTimer.expiresFromNow :=
      congrArg Settings.retry settings
    rw [retry, Timer.expiresFromNow_live]
    exact Nat.succ_ne_zero _
  have none : v.client.running = none := congrArg Settings.running settings
  have waiting : q = .waiting := by
    cases follows.next with
    | stay => exact absurd none (Client.reporting_busy after.phase)
    | reset => exact absurd after.phase.retry armed
    | retryAtOnce => exact absurd after.phase.retry armed
    | retryLater => rfl
  subst waiting
  have retries : v.client.currentlyRetries = w.client.currentlyRetries :=
    congrArg Settings.currentlyRetries settings
  have maximum : v.client.maxContinuousRetries = w.client.maxContinuousRetries :=
    congrArg Settings.maxContinuousRetries settings
  have kept : v.client.destroyed = false := (congrArg Settings.destroyed settings).trans alive
  have shape := step_returned moved (congrArg Settings.connects settings)
  generalize v.client = d at *
  subst shape
  refine ⟨⟨after, by decide, maximum.symm ▸ inv.maximum, inv.attempts, ?_, ?_, ?_, ?_, ?_⟩, rfl⟩
  · exact fun _ _ => retries.trans (inv.level (by decide) (by decide))
  · intro r will call _
    rw [none] at call
    contradiction
  · exact fun _ => ⟨stands, (allowed rfl).1⟩
  · exact fun _ _ => .inr rfl
  · exact fun _ => kept

theorem counted_ends (inv : Counted net budget p w)
    (moved : w.step net maxPacketSize .delegateReturned = some v)
    (follows : Client.Follows net p w.client .delegateReturned q v.client) {r : Running}
    {will : Bool} (running : w.client.running = some r) (flag : r.flag = some will)
    (unwanted : ¬ (w.client.willReconnectIfDisconnected = true ∧ will = true))
    (settings : v.client.settings = { w.client.settings with
      running := none
      willReconnect := false
      currentlyRetries := 0 }) :
    Counted net budget q v ∧ v.attempts = w.attempts := by
  obtain rfl := reporting_of_flag inv.sound running flag
  obtain ⟨stands, allowed⟩ := inv.reporting _ _ running flag
  have after := follows.sound
  have none : v.client.running = none := congrArg Settings.running settings
  have connects : v.client.connects = w.client.connects := congrArg Settings.connects settings
  have idle : q = .idle := by
    cases follows.next with
    | stay => exact absurd none (Client.reporting_busy after.phase)
    | reset => rfl
    | retryAtOnce =>
      have one := after.phase.connects
      rw [connects, inv.sound.phase.connects] at one
      contradiction
    | retryLater =>
      have one := after.phase.retry
      have same : v.client.reconnectRetryTimer = w.client.reconnectRetryTimer :=
        congrArg Settings.retry settings
      rw [same, inv.sound.phase.retry] at one
      contradiction
  subst idle
  have maximum : v.client.maxContinuousRetries = w.client.maxContinuousRetries :=
    congrArg Settings.maxContinuousRetries settings
  have shape := step_returned moved connects
  generalize v.client = d at *
  subst shape
  refine ⟨⟨after, by decide, maximum.symm ▸ inv.maximum, inv.attempts, ?_, ?_, ?_, ?_, ?_⟩, rfl⟩
  · exact fun busy => absurd rfl busy
  · intro r will call _
    rw [none] at call
    contradiction
  · exact fun no => by contradiction
  · intro true_flag kept
    obtain rfl : will = true := Option.some.inj (stands.symm.trans true_flag)
    exact absurd ⟨(allowed rfl).2 kept, rfl⟩ unwanted
  · rintro (no | no) <;> contradiction

theorem counted_connects (inv : Counted net budget p w)
    (moved : w.step net maxPacketSize .delegateReturned = some v)
    (after : Client.Sound net q v.client) {r : Running} (running : w.client.running = some r)
    (flag : r.flag = some true)
    (settings : v.client.settings = { w.client.settings with
      running := none
      currentlyRetries := w.client.currentlyRetries + 1
      connects := v.client.connects }) :
    Counted net budget q v ∧ w.flag = some true := by
  obtain rfl := reporting_of_flag inv.sound running flag
  obtain ⟨stands, allowed⟩ := inv.reporting _ _ running flag
  have starts := Client.startsAtOnce_connects inv.sound (stepped_of_step moved)
    (congrArg Settings.running settings) (congrArg Settings.currentlyRetries settings)
    (congrArg Settings.retry settings)
  obtain rfl := Client.connecting_of_connects after starts.1
  obtain ⟨counted, _⟩ := counted_attempt inv moved (.inl rfl) inv.sound.phase.connects after
    (allowed rfl).1 (inv.level (by decide) (by decide))
    (congrArg Settings.currentlyRetries settings) (congrArg Settings.maxContinuousRetries settings)
  exact ⟨counted, stands⟩

theorem counted_pulses (inv : Counted net budget p w)
    (moved : w.step net maxPacketSize .runRetry = some v)
    (follows : Client.Follows net p w.client .runRetry q v.client) {timer : Timer}
    (taken : w.client.reconnectRetryTimer.takeExpired = some timer)
    (settings : v.client.settings = { w.client.settings with
      retry := timer
      currentlyRetries := w.client.currentlyRetries + 1
      connects := v.client.connects }) :
    Counted net budget q v ∧ (w.attempts < v.attempts → w.flag = some true) := by
  obtain ⟨_, live, _⟩ := Timer.takeExpired_spec taken
  have retry : v.client.reconnectRetryTimer = timer := congrArg Settings.retry settings
  have retries : v.client.currentlyRetries = w.client.currentlyRetries + 1 :=
    congrArg Settings.currentlyRetries settings
  have maximum : v.client.maxContinuousRetries = w.client.maxContinuousRetries :=
    congrArg Settings.maxContinuousRetries settings
  have after := follows.sound
  rcases Client.phase_of_live inv.sound (by omega) with rfl | rfl
  · obtain ⟨stands, few⟩ := inv.waiting rfl
    have connecting : q = .connecting := by
      cases follows.next with
      | stay =>
        have one := after.phase.retry
        rw [retry] at one
        have before := inv.sound.phase.retry
        omega
      | retry => rfl
      | abandon => exact absurd rfl (follows.keptRetry (by simp) (by simp) (by decide))
    subst connecting
    obtain ⟨counted, _⟩ := counted_attempt inv moved (.inr rfl) inv.sound.phase.connects after few
      (inv.level (by decide) (by decide)) retries maximum
    exact ⟨counted, fun _ => stands⟩
  · have stuck : q = .stuck := by
      cases follows.next
      rfl
    subst stuck
    have connects : v.client.connects = w.client.connects :=
      after.phase.connects.trans inv.sound.phase.connects.symm
    have shape := step_quiet moved (by simp) rfl rfl
      (automaticAttempts_same w.client connects rfl)
    have idle := after.phase.running
    generalize v.client = d at *
    subst shape
    refine ⟨⟨after, by decide, maximum.symm ▸ inv.maximum, inv.attempts, ?_, ?_, ?_, ?_, ?_⟩,
      fun more => absurd more (Nat.lt_irrefl _)⟩
    · exact fun _ free => absurd rfl free
    · intro r will call _
      rw [idle] at call
      contradiction
    · exact fun no => by contradiction
    · intro flag kept
      have cancelled := inv.undue (by decide) (by decide) flag
      exact absurd (kept.symm.trans cancelled) (by decide)
    · rintro (no | no) <;> contradiction

theorem counted_accepted (inv : Counted net budget p w) (nonnegative : 0 ≤ budget)
    {destination : Destination} {port : BitVec 16} {flags : BitVec 64}
    (moved : w.step net maxPacketSize (.connectAsync destination port flags) = some v)
    (follows : Client.Follows net p w.client (.connectAsync destination port flags) q v.client)
    (fine : q ≠ .unresolved) (accepted : w.client.acceptsConnect)
    (running : v.client.running = w.client.running)
    (retries : v.client.currentlyRetries = w.client.currentlyRetries)
    (maximum : v.client.maxContinuousRetries = w.client.maxContinuousRetries) :
    Counted net budget q v := by
  obtain rfl := (Client.accepts_iff_idle inv.sound).mp accepted
  have next : q = .idle ∨ q = .connecting := by
    cases follows.next with
    | stay => exact .inl rfl
    | connect => exact .inr rfl
    | refuse => exact absurd rfl fine
  have shape : v.attempts = 0 ∧ v.flag = none := by
    obtain ⟨client, stepped, rfl⟩ := Option.map_eq_some_iff.mp moved
    simp [Client.connectsAnew, accepted]
  obtain ⟨attempts, flag⟩ := shape
  refine ⟨follows.sound, fine, maximum.symm ▸ inv.maximum, ?_, ?_, ?_, ?_, ?_, ?_⟩
  · omega
  · intro _ _
    rw [retries, inv.sound.phase.retries, attempts]
    rfl
  · intro r will call _
    rw [running, inv.sound.phase.running] at call
    contradiction
  · rintro rfl
    rcases next with no | no <;> contradiction
  · intro stands
    rw [flag] at stands
    contradiction
  · rintro (rfl | rfl)
    · rcases next with no | no <;> contradiction
    · rcases next with no | no <;> contradiction

theorem counted_sendFinish (inv : Counted net budget p w) {index : Nat} {packet : NetlibPacket}
    (moved : w.step net maxPacketSize (.runSendFinish index) = some v)
    (follows : Client.Follows net p w.client (.runSendFinish index) q v.client)
    (settings : v.client.settings = { w.client.settings with
      running := some (.sendFinish packet) }) :
    Counted net budget q v ∧ v.attempts = w.attempts := by
  have running : v.client.running = some (.sendFinish packet) := congrArg Settings.running settings
  have connects : v.client.connects = w.client.connects := congrArg Settings.connects settings
  have retries : v.client.currentlyRetries = w.client.currentlyRetries :=
    congrArg Settings.currentlyRetries settings
  have maximum : v.client.maxContinuousRetries = w.client.maxContinuousRetries :=
    congrArg Settings.maxContinuousRetries settings
  have after := follows.sound
  obtain rfl : q = .active := by
    rcases Client.phase_of_running after running with ⟨active, _⟩ | ⟨_, other⟩
    · exact active
    · exact absurd rfl (other packet)
  obtain rfl : p = .active := by
    cases follows.next with
    | stay => rfl
    | establish =>
      obtain ⟨s, active, _⟩ := after.phase
      have one := inv.sound.phase.connects
      rw [← connects, active.connects] at one
      contradiction
  have shape := step_quiet moved (by simp) rfl rfl
    (automaticAttempts_same w.client connects rfl)
  generalize v.client = d at *
  subst shape
  refine ⟨counted_active inv (.inr rfl) after (.inl rfl) inv.attempts ?_
    (maximum.symm ▸ inv.maximum) ?_ id, rfl⟩
  · exact retries.trans (inv.level (by decide) (by decide))
  · intro r call
    obtain rfl := Option.some.inj (running.symm.trans call)
    rfl

theorem destinationResolves_of_keepsBudget (kept : e.keepsBudget budget) (c : Client Address) :
    Client.destinationResolves net c e := by
  intro destination named _
  cases e with
  | connectAsync other port flags =>
    obtain rfl := Option.some.inj named
    cases other with
    | ip text => exact kept.elim
    | ipNumber value =>
      have found : (c.setDestination (.ipNumber value)).endpointAddress net =
          some (net.addressV4 value) := if_neg kept
      rw [found]
      rfl
  | _ => contradiction

theorem counted_step (inv : Counted net budget p w) (nonnegative : 0 ≤ budget)
    (kept : e.keepsBudget budget) (moved : w.step net maxPacketSize e = some v) :
    ∃ q, Counted net budget q v ∧ (w.attempts < v.attempts → w.flag = some true) := by
  have stepped := stepped_of_step moved
  have alive := Client.alive_of_step stepped
  obtain ⟨q, follows⟩ := Client.step_follows inv.sound stepped
  have few (counted : Counted net budget q v) (few : v.attempts ≤ w.attempts) :
      ∃ q, Counted net budget q v ∧ (w.attempts < v.attempts → w.flag = some true) :=
    ⟨q, counted, fun more => absurd more (Nat.not_lt.mpr few)⟩
  have quiet (report : e ≠ .runDisconnected) (destination : e.destination = none)
      (done : e.connectsDone = 0) (connects : v.client.connects = w.client.connects)
      (running : v.client.running = w.client.running)
      (retries : v.client.currentlyRetries = w.client.currentlyRetries)
      (maximum : v.client.maxContinuousRetries = budget ∨ v.client.maxContinuousRetries = 0)
      (will : e.cancels = false →
        v.client.willReconnectIfDisconnected = w.client.willReconnectIfDisconnected)
      (kept : v.client.destroyed = w.client.destroyed) :
      ∃ q, Counted net budget q v ∧ (w.attempts < v.attempts → w.flag = some true) := by
    obtain ⟨counted, attempts⟩ := counted_quiet inv moved follows report destination done connects
      running retries maximum will (fun _ => kept.trans alive)
    exact few counted attempts.le
  have limit (same : v.client.maxContinuousRetries = w.client.maxContinuousRetries) :
      v.client.maxContinuousRetries = budget ∨ v.client.maxContinuousRetries = 0 :=
    same.symm ▸ inv.maximum
  cases Client.turns_of_step inv.sound stepped with
  | stays still settings =>
    refine quiet (by rintro rfl; contradiction) (by cases e <;> first | rfl | contradiction)
      (by cases e <;> first | rfl | contradiction) (congrArg Settings.connects settings)
      (congrArg Settings.running settings) (congrArg Settings.currentlyRetries settings)
      (limit (congrArg Settings.maxContinuousRetries settings))
      (fun _ => congrArg Settings.willReconnect settings) (congrArg Settings.destroyed settings)
  | refused destination port flags refused unchanged =>
    have shape := step_quiet moved (by simp) (by simp [Client.connectsAnew, refused]) rfl rfl
    rw [unchanged] at shape
    have same : v = w := shape
    rw [same]
    exact ⟨p, inv, fun more => absurd more (Nat.lt_irrefl _)⟩
  | accepted destination port flags accepted settings =>
    have fine : q ≠ .unresolved := by
      intro unresolved
      refine (follows.unresolved unresolved).elim inv.resolved (fun broken => broken ?_)
      exact destinationResolves_of_keepsBudget kept w.client
    have attempts : v.attempts = 0 := by
      obtain ⟨client, stepped, rfl⟩ := Option.map_eq_some_iff.mp moved
      simp [Client.connectsAnew, accepted]
    refine few (counted_accepted inv nonnegative moved follows fine accepted
      (congrArg Settings.running settings) (congrArg Settings.currentlyRetries settings)
      (congrArg Settings.maxContinuousRetries settings)) ?_
    exact attempts.trans_le (Nat.zero_le _)
  | disconnect retry settings =>
    exact quiet (by simp) rfl rfl (congrArg Settings.connects settings)
      (congrArg Settings.running settings) (congrArg Settings.currentlyRetries settings)
      (limit (congrArg Settings.maxContinuousRetries settings)) (fun no => by contradiction)
      (congrArg Settings.destroyed settings)
  | disableReconnect settings =>
    exact quiet (by simp) rfl rfl (congrArg Settings.connects settings)
      (congrArg Settings.running settings) (congrArg Settings.currentlyRetries settings)
      (.inr (congrArg Settings.maxContinuousRetries settings)) (fun no => by contradiction)
      (congrArg Settings.destroyed settings)
  | enableReconnect retries settings =>
    exact quiet (by simp) rfl rfl (congrArg Settings.connects settings)
      (congrArg Settings.running settings) (congrArg Settings.currentlyRetries settings)
      (.inl ((congrArg Settings.maxContinuousRetries settings).trans kept))
      (fun _ => congrArg Settings.willReconnect settings) (congrArg Settings.destroyed settings)
  | expires fired settings | aborts taken settings =>
    exact quiet (by simp) rfl rfl (congrArg Settings.connects settings)
      (congrArg Settings.running settings) (congrArg Settings.currentlyRetries settings)
      (limit (congrArg Settings.maxContinuousRetries settings))
      (fun _ => congrArg Settings.willReconnect settings) (congrArg Settings.destroyed settings)
  | failed error others session settings =>
    obtain ⟨counted, attempts⟩ := counted_connectDone inv nonnegative moved follows
    exact few counted attempts
  | established others wanted session settings =>
    obtain ⟨counted, attempts⟩ := counted_connectDone inv nonnegative moved follows
    exact few counted attempts
  | sendFinish index packet free settings =>
    obtain ⟨counted, attempts⟩ := counted_sendFinish inv moved follows settings
    exact few counted attempts.le
  | reports posted settings =>
    obtain ⟨counted, attempts, _⟩ :=
      counted_reports inv nonnegative moved follows posted settings
    exact few counted attempts.le
  | decides will running written settings => exact kept.elim
  | finished running settings =>
    obtain ⟨counted, attempts⟩ := counted_finished inv moved follows running settings
    exact few counted attempts.le
  | waits running flag wanted later session settings =>
    obtain ⟨counted, attempts⟩ := counted_waits inv moved follows running flag settings
    exact few counted attempts.le
  | connects running flag wanted fresh known session settings =>
    obtain ⟨counted, stands⟩ := counted_connects inv moved follows.sound running flag settings
    exact ⟨q, counted, fun _ => stands⟩
  | ends running flag unwanted session settings =>
    obtain ⟨counted, attempts⟩ := counted_ends inv moved follows running flag unwanted settings
    exact few counted attempts.le
  | pulses taken settings => exact ⟨q, counted_pulses inv moved follows taken settings⟩
  | destroys unused settings =>
    have running : v.client.running = w.client.running := congrArg Settings.running settings
    obtain ⟨_, _, _, _, _, idle, waits, _⟩ := unused
    obtain ⟨counted, attempts⟩ := counted_quiet inv moved follows (by simp) rfl rfl
      (congrArg Settings.connects settings) running (congrArg Settings.currentlyRetries settings)
      (limit (congrArg Settings.maxContinuousRetries settings))
      (fun _ => congrArg Settings.willReconnect settings) (by
        have after := follows.sound
        rintro (rfl | rfl)
        · exact absurd (running.trans idle) (Client.reporting_busy after.phase)
        · have one := after.phase.retry
          have same : v.client.reconnectRetryTimer = w.client.reconnectRetryTimer :=
            congrArg Settings.retry settings
          rw [same] at one
          unfold Timer.live at one
          unfold Timer.waits at waits
          omega)
    exact few counted attempts.le

theorem Counted.stands (inv : Counted net budget p w) (flag : w.flag = some true)
    (kept : w.cancelled = false) (moved : w.step net maxPacketSize e = some v) :
    v.flag = some true ∧ v.cancelled = e.cancels ∧ v.attempts = w.attempts ∨
      v.attempts = w.attempts + 1 := by
  have due := inv.due flag kept
  have quiet : w.client.connects = [] ∧ w.client.disconnectedPosts = 0 := by
    rcases due with rfl | rfl
    · exact ⟨inv.sound.phase.connects, inv.sound.phase.posts⟩
    · exact ⟨inv.sound.phase.connects, inv.sound.phase.posts⟩
  obtain ⟨client, stepped, rfl⟩ := Option.map_eq_some_iff.mp moved
  obtain ⟨q, follows⟩ := Client.step_follows inv.sound stepped
  have report : e ≠ .runDisconnected := by
    rintro rfl
    cases Client.occurs_of_step stepped with
    | runDisconnected posted => exact posted quiet.2
  have anew : w.client.connectsAnew e = false := by
    cases e with
    | connectAsync destination port flags =>
      refine decide_eq_false ?_
      rw [Client.accepts_iff_idle inv.sound]
      rintro rfl
      rcases due with no | no <;> contradiction
    | _ => rfl
  have done : ∀ error, e ≠ .connectDone error := by
    rintro error rfl
    cases Client.occurs_of_step stepped with
    | connectDone _ pending =>
      rw [quiet.1] at pending
      contradiction
  have opens : client.opensSession e = false := by
    cases e with
    | connectDone error => exact absurd rfl (done error)
    | _ => rfl
  have few : w.client.automaticAttempts client e ≤ 1 := by
    have one := follows.sound.kinds.1
    unfold Client.automaticAttempts Client.attempts
    split
    · exact Nat.zero_le 1
    · have none : e.connectsDone = 0 := by
        cases e with
        | connectDone error => exact absurd rfl (done error)
        | _ => rfl
      omega
  by_cases none : w.client.automaticAttempts client e = 0
  · left
    simp [report, anew, opens, none, flag, kept]
  · right
    have one : w.client.automaticAttempts client e = 1 := by omega
    simp [anew, opens, one]

theorem running_of_delegateReturned (sound : Client.Sound net p w.client)
    (moved : w.client.step net maxPacketSize .delegateReturned = some d) : d.running = none := by
  cases Client.turns_of_step sound moved with
  | stays still settings => contradiction
  | finished running settings => exact congrArg Settings.running settings
  | waits running flag wanted later session settings => exact congrArg Settings.running settings
  | connects running flag wanted fresh known session settings =>
    exact congrArg Settings.running settings
  | ends running flag unwanted session settings => exact congrArg Settings.running settings

theorem step_of_stepped (stepped : w.client.step net maxPacketSize e = some d) :
    ∃ v, w.step net maxPacketSize e = some v ∧ v.client = d := by
  unfold step
  rw [stepped]
  exact ⟨_, rfl, rfl⟩

theorem Counted.retries (inv : Counted net budget .waiting w) (nonnegative : 0 ≤ budget)
    (kept : w.cancelled = false) (due : w.client.reconnectRetryTimer.expired ≠ 0) :
    ∃ v, w.step net maxPacketSize .runRetry = some v ∧ v.attempts = w.attempts + 1 := by
  obtain ⟨flag, few⟩ := inv.waiting rfl
  have alive := inv.alive (.inr rfl)
  obtain ⟨⟨session, _, _, _, idle⟩, _, retry, _⟩ := inv.sound.phase
  have free : w.client.busy = false := by
    simp [Client.busy, session, idle]
  obtain ⟨d, stepped⟩ : ∃ d, w.client.step net maxPacketSize .runRetry = some d := by
    simp [Client.step, alive, free, Client.runHandler, Timer.takeExpired, due]
  obtain ⟨v, moved, rfl⟩ := step_of_stepped stepped
  refine ⟨v, moved, (inv.stands flag kept moved).resolve_left ?_⟩
  rintro ⟨stands, still, _⟩
  obtain ⟨q, counted, _⟩ := counted_step (e := .runRetry) inv nonnegative trivial moved
  cases Client.turns_of_step inv.sound stepped with
  | stays still settings => contradiction
  | @pulses timer taken settings =>
    have running : v.client.running = w.client.running := congrArg Settings.running settings
    have same : v.client.reconnectRetryTimer = timer := congrArg Settings.retry settings
    have live := (Timer.takeExpired_spec taken).2.1
    rcases counted.due stands still with rfl | rfl
    · exact Client.reporting_busy counted.sound.phase (running.trans idle)
    · have one := counted.sound.phase.retry
      rw [same] at one
      omega

theorem Counted.waits (inv : Counted net budget .waiting w) (nonnegative : 0 ≤ budget)
    (kept : w.cancelled = false) : ∃ es v, (∀ e ∈ es, e.isHandler = true) ∧
      exec (step net maxPacketSize) w es = some v ∧ v.attempts = w.attempts + 1 := by
  by_cases due : w.client.reconnectRetryTimer.expired = 0
  · obtain ⟨flag, few⟩ := inv.waiting rfl
    have alive := inv.alive (.inr rfl)
    have one := inv.sound.phase.retry
    obtain ⟨d, stepped⟩ : ∃ d, w.client.step net maxPacketSize .retryExpires = some d := by
      have pending : w.client.reconnectRetryTimer.pending ≠ 0 := by
        unfold Timer.live at one
        omega
      simp [Client.step, alive, Timer.expire, pending]
    obtain ⟨v, moved, rfl⟩ := step_of_stepped stepped
    obtain ⟨q, counted, _⟩ := counted_step (e := .retryExpires) inv nonnegative trivial moved
    cases Client.turns_of_step inv.sound stepped with
    | stays still settings => contradiction
    | @expires timer fired settings =>
      obtain ⟨_, live, pending, _⟩ := Timer.expire_spec fired
      have same : v.client.reconnectRetryTimer = timer := congrArg Settings.retry settings
      have shape := step_quiet moved (by simp) rfl rfl
        (automaticAttempts_same w.client (congrArg Settings.connects settings) rfl)
      obtain ⟨stands, still, attempts⟩ : v.flag = some true ∧ v.cancelled = false ∧
          v.attempts = w.attempts := by
        rw [shape]
        exact ⟨flag, kept, rfl⟩
      obtain rfl : q = .waiting := by
        refine (counted.due stands still).resolve_left ?_
        rintro rfl
        have none := counted.sound.phase.retry
        rw [same] at none
        omega
      have expired : v.client.reconnectRetryTimer.expired ≠ 0 := by
        rw [same]
        unfold Timer.live at live one
        omega
      obtain ⟨u, second, more⟩ : ∃ u, v.step net maxPacketSize .runRetry = some u ∧
          u.attempts = v.attempts + 1 := counted.retries nonnegative still expired
      refine ⟨[.retryExpires, .runRetry], u, by simp [ClientEvent.isHandler], ?_, ?_⟩
      · rw [exec_cons, moved, Option.bind_some, exec_cons, second]
        rfl
      · rw [more, attempts]
  · obtain ⟨v, moved, more⟩ := inv.retries nonnegative kept due
    refine ⟨[.runRetry], v, by simp [ClientEvent.isHandler], ?_, more⟩
    rw [exec_cons, moved]
    rfl

theorem Counted.follows (inv : Counted net budget p w) (nonnegative : 0 ≤ budget)
    (flag : w.flag = some true) (kept : w.cancelled = false) :
    ∃ es v, (∀ e ∈ es, e.isHandler = true) ∧ exec (step net maxPacketSize) w es = some v ∧
      v.attempts = w.attempts + 1 := by
  rcases inv.due flag kept with rfl | rfl
  · have alive := inv.alive (.inl rfl)
    obtain ⟨r, call⟩ := Option.ne_none_iff_exists'.mp (Client.reporting_busy inv.sound.phase)
    obtain ⟨d, stepped⟩ : ∃ d, w.client.step net maxPacketSize .delegateReturned = some d := by
      simp [Client.step, alive, call]
    obtain ⟨v, moved, rfl⟩ := step_of_stepped stepped
    have idle := running_of_delegateReturned inv.sound stepped
    obtain ⟨q, counted, _⟩ := counted_step (e := .delegateReturned) inv nonnegative trivial moved
    rcases inv.stands flag kept moved with ⟨stands, still, attempts⟩ | more
    · obtain rfl : q = .waiting := by
        refine (counted.due stands still).resolve_left ?_
        rintro rfl
        exact Client.reporting_busy counted.sound.phase idle
      obtain ⟨es, u, own, ran, more⟩ : ∃ es u, (∀ e ∈ es, e.isHandler = true) ∧
          exec (step net maxPacketSize) v es = some u ∧ u.attempts = v.attempts + 1 :=
        counted.waits nonnegative still
      refine ⟨.delegateReturned :: es, u, ?_, ?_, more.trans (by rw [attempts])⟩
      · exact List.forall_mem_cons.mpr ⟨rfl, own⟩
      · rw [exec_cons, moved]
        exact ran
    · refine ⟨[.delegateReturned], v, by simp [ClientEvent.isHandler], ?_, more⟩
      rw [exec_cons, moved]
      rfl
  · exact inv.waits nonnegative kept

theorem Counted.withinBudget (inv : Counted net budget p w) (nonnegative : 0 ≤ budget) :
    w.WithinBudget net maxPacketSize budget := by
  refine ⟨inv.attempts, ?_, ?_, ?_, ?_⟩
  · intro v moved
    have stepped := stepped_of_step moved
    obtain ⟨q, follows⟩ := Client.step_follows inv.sound stepped
    cases Client.turns_of_step inv.sound stepped with
    | stays still settings => contradiction
    | reports posted settings =>
      obtain ⟨counted, _, flag⟩ := counted_reports inv nonnegative moved follows posted settings
      have running : v.client.running = some (if w.client.currentlyRetries = 0
          then .disconnected w.client.willContinueReconnect
          else .reconnectFailed w.client.willContinueReconnect) :=
        congrArg Settings.running settings
      have level : w.client.currentlyRetries = w.attempts := by
        refine inv.level ?_ ?_
        · rintro rfl
          exact posted inv.sound.phase.posts
        · rintro rfl
          exact posted inv.sound.phase.posts
      refine ⟨_, flag, running.trans ?_⟩
      rw [level]
      exact congrArg some (if_congr Int.natCast_eq_zero rfl rfl)
  · intro e v kept moved
    obtain ⟨_, _, announced⟩ := counted_step inv nonnegative kept moved
    exact announced
  · exact fun flag kept e v moved => inv.stands flag kept moved
  · exact fun flag kept => inv.follows nonnegative flag kept

/-- From EnableReconnect on an idle client on, the retries stay within the number allowed, and
    disconnected() tells the delegate what comes. -/
theorem retries_within_budget {c : Client Address}
    (before : Reach (Client.step net maxPacketSize) always {} c) (idle : c.acceptsConnect)
    (nonnegative : 0 ≤ budget) (run : Reach (step net maxPacketSize)
      (fun _ e => e.keepsBudget budget) { client := c.enableReconnectWith budget } w) :
    w.WithinBudget net maxPacketSize budget := by
  have started : ∃ p, Client.Sound net p c := by
    refine reach_invariant (fun c => ∃ p, Client.Sound net p c) ⟨.idle, Client.sound_initial net⟩
      ?_ before
    rintro b e t ⟨p, sound⟩ _ moved
    obtain ⟨q, follows⟩ := Client.step_follows sound moved
    exact ⟨q, follows.sound⟩
  obtain ⟨p, sound⟩ := started
  obtain rfl := (Client.accepts_iff_idle sound).mp idle
  have same : Client.SamePhase c (c.enableReconnectWith budget) := by
    constructor <;> first | rfl | exact id
  have start : Counted net budget .idle { client := c.enableReconnectWith budget } := by
    refine ⟨same.sound net sound, by decide, .inl rfl, nonnegative, fun no => absurd rfl no, ?_,
      fun no => by contradiction, fun no => by contradiction, ?_⟩
    · intro r will call _
      have none := sound.phase.running
      rw [show c.running = some r from call] at none
      contradiction
    · rintro (no | no) <;> contradiction
  have inv : ∃ p, Counted net budget p w := by
    refine reach_invariant (fun w => ∃ p, Counted net budget p w) ⟨.idle, start⟩ ?_ run
    rintro b e t ⟨p, counted⟩ kept moved
    obtain ⟨q, after, _⟩ := counted_step counted nonnegative kept moved
    exact ⟨q, after⟩
  obtain ⟨q, counted⟩ := inv
  exact counted.withinBudget nonnegative

def failedRetry : List ClientEvent :=
  [.connectAsync (.ipNumber 0x7f000001) 80 clientEnableReconnectOnFirstConnect,
    .connectDone (some .connectionRefused), .runDisconnected, .delegateReturned, .retryExpires,
    .runRetry, .connectDone (some .connectionRefused), .runDisconnected]

theorem within_budget_after_failed_retry : ∃ w : RetryRun (BitVec 32),
    (w.attempts = 1 ∧ w.flag = some false) ∧ w.WithinBudget Client.localhost 0x80000 1 := by
  obtain ⟨w, run, test⟩ := execWithin_any (step Client.localhost 0x80000)
    (fun _ e => e.keepsBudget 1) { client := Client.enableReconnectWith {} 1 } failedRetry
    (fun w => decide (w.attempts = 1 ∧ w.flag = some false)) (by decide +kernel)
  exact ⟨w, of_decide_eq_true test,
    retries_within_budget .refl ⟨rfl, rfl⟩ (by decide) run⟩

end RetryRun

end LaluneServer.NetLib
