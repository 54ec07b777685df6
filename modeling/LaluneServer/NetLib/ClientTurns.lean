import LaluneServer.NetLib.ClientConnects
import LaluneServer.NetLib.ClientLedger

/- What each event does to the settings of a client: to the user's wishes, to the retry
   counter and its timer, to the connects and to the call of the delegate. -/
namespace LaluneServer.NetLib
open DeadlineTimer Transition

def Running.flag : Running → Option Bool
  | .sendFinish _ => none
  | .disconnected will | .reconnectFailed will => some will

namespace Client
variable {Address : Type*} (net : Addresses Address) (c d : Client Address)

inductive Turns : ClientEvent → Prop where
  | stays {e : ClientEvent} (still : e.movesSettings = false)
      (settings : d.settings = c.settings) : Turns e
  | refused (destination : Destination) (port : BitVec 16) (flags : BitVec 64)
      (refused : ¬ c.acceptsConnect) (same : d = c) : Turns (.connectAsync destination port flags)
  | accepted (destination : Destination) (port : BitVec 16) (flags : BitVec 64)
      (accepted : c.acceptsConnect)
      (settings : d.settings = { c.settings with
        manual := false
        willReconnect := flags &&& clientEnableReconnectOnFirstConnect ≠ 0
        connects := d.connects }) : Turns (.connectAsync destination port flags)
  | disconnect (retry : Timer) (settings : d.settings = { c.settings with
        manual := true
        willReconnect := false
        retry := retry }) : Turns .disconnect
  | disableReconnect (settings : d.settings = { c.settings with
        retry := c.reconnectRetryTimer.cancel
        enableReconnect := false
        willReconnect := false
        maxContinuousRetries := 0 }) : Turns .disableReconnect
  | enableReconnect (retries : Int) (settings : d.settings = { c.settings with
        enableReconnect := true
        maxContinuousRetries := retries }) : Turns (.enableReconnect retries)
  | failed (error : Outcome) (others : List (Address × BitVec 16))
      (session : d.connectedSession = none)
      (settings : d.settings = { c.settings with connects := others }) : Turns (.connectDone error)
  | established (others : List (Address × BitVec 16)) (wanted : c.manuallyDisconnect = false)
      (session : d.connectedSession ≠ none)
      (settings : d.settings = { c.settings with
        connects := others
        willReconnect := c.enableReconnect || c.willReconnectIfDisconnected
        firstConnect := c.firstConnect && decide (c.currentlyRetries ≠ 0)
        currentlyRetries := 0 }) : Turns (.connectDone none)
  | sendFinish (index : Nat) (packet : NetlibPacket) (free : c.running = none)
      (settings : d.settings = { c.settings with running := some (.sendFinish packet) }) :
    Turns (.runSendFinish index)
  | reports (posted : c.disconnectedPosts ≠ 0) (settings : d.settings = { c.settings with
        running := some (if c.currentlyRetries = 0 then .disconnected c.willContinueReconnect
          else .reconnectFailed c.willContinueReconnect) }) : Turns .runDisconnected
  | decides (will : Bool) {r t : Running} (running : c.running = some r)
      (written : r.setWillReconnect will = some t)
      (settings : d.settings = { c.settings with running := some t }) :
    Turns (.setWillReconnect will)
  | finished {packet : NetlibPacket} (running : c.running = some (.sendFinish packet))
      (settings : d.settings = { c.settings with running := none }) : Turns .delegateReturned
  | waits {r : Running} (running : c.running = some r) (flag : r.flag = some true)
      (wanted : c.willReconnectIfDisconnected = true)
      (later : c.currentlyRetries ≠ 0 ∨ c.firstConnect = true)
      (session : d.connectedSession = none)
      (settings : d.settings = { c.settings with
        running := none
        retry := c.reconnectRetryTimer.expiresFromNow }) : Turns .delegateReturned
  | connects {r : Running} (running : c.running = some r) (flag : r.flag = some true)
      (wanted : c.willReconnectIfDisconnected = true) (fresh : c.currentlyRetries = 0)
      (known : c.firstConnect = false) (session : d.connectedSession = none)
      (settings : d.settings = { c.settings with
        running := none
        currentlyRetries := c.currentlyRetries + 1
        connects := d.connects }) : Turns .delegateReturned
  | ends {r : Running} {will : Bool} (running : c.running = some r) (flag : r.flag = some will)
      (unwanted : ¬ (c.willReconnectIfDisconnected = true ∧ will = true))
      (session : d.connectedSession = none)
      (settings : d.settings = { c.settings with
        running := none
        willReconnect := false
        currentlyRetries := 0 }) : Turns .delegateReturned
  | expires {timer : Timer} (fired : c.reconnectRetryTimer.expire = some timer)
      (settings : d.settings = { c.settings with retry := timer }) : Turns .retryExpires
  | pulses {timer : Timer} (taken : c.reconnectRetryTimer.takeExpired = some timer)
      (settings : d.settings = { c.settings with
        retry := timer
        currentlyRetries := c.currentlyRetries + 1
        connects := d.connects }) : Turns .runRetry
  | aborts {timer : Timer} (taken : c.reconnectRetryTimer.takeAborted = some timer)
      (settings : d.settings = { c.settings with retry := timer }) : Turns .runRetryAborted
  | destroys (unused : c.unreferenced)
      (settings : d.settings = { c.settings with destroyed := true }) : Turns .destroy

variable {net} {maxPacketSize : Nat} {c d} {e : ClientEvent} {p : Phase}

theorem alive_of_step (moved : step net maxPacketSize c e = some d) : c.destroyed = false := by
  unfold step at moved
  split at moved
  · contradiction
  · rename_i alive
    exact Bool.eq_false_iff.mpr alive

theorem settings_connects (same : d.settings = c.settings) :
    d.settings = { c.settings with connects := d.connects } := by
  have connects : d.connects = c.connects := congrArg Settings.connects same
  rw [connects]
  exact same

theorem settings_connectAsync (net : Addresses Address) (c : Client Address) :
    (c.connectAsync net).settings = { c.settings with connects := (c.connectAsync net).connects } := by
  unfold connectAsync
  split
  · rfl
  · unfold tcpConnectAsync
    split
    · rfl
    · exact settings_connects ((settings_decrease _).trans (settings_handleError _ _ _))

theorem settings_disconnect (c : Client Address) : ∃ retry, c.disconnect.settings =
    { c.settings with manual := true, willReconnect := false, retry := retry } := by
  have cancelled (b : Client Address) : b.cancelConnect.settings =
      { b.settings with retry := b.reconnectRetryTimer.cancel } := by
    have same := settings_handleError b .clientCancelConnectByLocal none
    have retry := congrArg Settings.retry same
    unfold cancelConnect
    exact (congrArg (fun s : Settings Address =>
      { s with retry := s.retry.cancel }) same)
  unfold disconnect
  dsimp only
  split
  · exact ⟨_, cancelled _⟩
  · split
    · split
      · exact ⟨c.reconnectRetryTimer, settings_applySession _ _⟩
      · exact ⟨_, cancelled _⟩
    · exact ⟨_, cancelled _⟩

theorem settings_markConnected (c : Client Address) : c.markConnected.settings =
    { c.settings with
      willReconnect := c.enableReconnect || c.willReconnectIfDisconnected
      firstConnect := c.firstConnect && decide (c.currentlyRetries ≠ 0)
      currentlyRetries := 0 } := by
  unfold markConnected
  by_cases fresh : c.currentlyRetries = 0
  · cases enabled : c.enableReconnect <;> simp [fresh, enabled, settings]
  · cases enabled : c.enableReconnect <;> simp [fresh, enabled, settings]

theorem turns_connectDone (sound : Sound net p c) {first : Address × BitVec 16}
    {others : List (Address × BitVec 16)} (pending : c.connects = first :: others)
    (error : Outcome) :
    Turns c ({ c with connects := others }.tcpConnectedHandler error) (.connectDone error) := by
  obtain ⟨rfl, empty⟩ := only_connect sound pending
  obtain ⟨⟨session, finishes, keepAlive, posts, running⟩, connects, retry, count, process,
    recorded⟩ := sound.phase
  unfold tcpConnectedHandler
  cases error with
  | some code =>
    refine .failed _ others ?_ ?_
    · rw [session_decrease, session_handleError]
      exact session
    · rw [settings_decrease, settings_handleError]
      rfl
  | none =>
    dsimp only
    by_cases cancelled : c.manuallyDisconnect = true
    · rw [if_pos cancelled]
      refine .failed _ others ?_ ?_
      · rw [session_decrease]
        exact session
      · rw [settings_decrease]
        rfl
    · rw [if_neg cancelled, session]
      have wanted := Bool.eq_false_iff.mpr cancelled
      have fresh : c.lastError = .noError := by
        by_contra some_error
        exact cancelled (recorded.mpr some_error)
      obtain ⟨s, w⟩ := @working_connected _ net { c with connects := others }
        ⟨session, finishes, keepAlive, posts, running⟩ empty retry count process fresh wanted
        (sound.resolved rfl)
      have opened := w.active.session
      refine .established others wanted ?_ ?_
      · rw [session_decrease]
        exact fun none => Option.some_ne_none s (opened.symm.trans none)
      · rw [settings_decrease]
        unfold connectedHandler
        rw [settings_startTransfers, settings_markConnected]
        rfl

theorem turns_afterDisconnected (net : Addresses Address) {b : Client Address} {r : Running}
    {will : Bool} (running : c.running = some r) (flag : r.flag = some will)
    (same : b.settings = { c.settings with running := none }) :
    Turns c (b.afterDisconnected net will) .delegateReturned := by
  have wanted : b.willReconnectIfDisconnected = c.willReconnectIfDisconnected :=
    congrArg Settings.willReconnect same
  have retries : b.currentlyRetries = c.currentlyRetries := congrArg Settings.currentlyRetries same
  have first : b.firstConnect = c.firstConnect := congrArg Settings.firstConnect same
  unfold afterDisconnected
  dsimp only
  split
  · rename_i again
    obtain ⟨again, rfl⟩ := again
    rw [wanted] at again
    split
    · rename_i later
      rw [retries, first] at later
      refine .waits running flag again later rfl ?_
      exact congrArg (fun s : Settings Address =>
        { s with retry := s.retry.expiresFromNow }) same
    · rename_i now
      rw [retries, first, not_or, not_not] at now
      refine .connects running flag again now.1 (Bool.eq_false_iff.mpr now.2)
        ((sameLedger_connectAsync _).session rfl) ?_
      refine (settings_connectAsync net _).trans ?_
      exact congrArg (fun s : Settings Address => { s with
        currentlyRetries := s.currentlyRetries + 1
        connects := (connectAsync net { b with
          connectedSession := none, currentlyRetries := b.currentlyRetries + 1 }).connects }) same
  · rename_i unwanted
    rw [wanted] at unwanted
    refine .ends running flag unwanted rfl ?_
    exact congrArg (fun s : Settings Address =>
      { s with willReconnect := false, currentlyRetries := 0 }) same

theorem turns_delegateReturned (net : Addresses Address) {r : Running}
    (running : c.running = some r) : Turns c (c.delegateReturned net r) .delegateReturned := by
  cases r with
  | sendFinish packet => exact .finished running (settings_decrease { c with running := none })
  | disconnected will =>
    exact turns_afterDisconnected net running rfl
      (settings_processFailedPackets { c with running := none })
  | reconnectFailed will =>
    exact turns_afterDisconnected (b := { c with running := none }) net running rfl rfl

theorem turns_of_step (sound : Sound net p c) (moved : step net maxPacketSize c e = some d) :
    Turns c d e := by
  cases still : e.movesSettings with
  | false => exact .stays still (step_sameSettings still moved)
  | true =>
    cases occurs_of_step moved with
    | connectAsync destination port flags =>
      by_cases accepted : c.acceptsConnect
      · refine .accepted destination port flags accepted ?_
        unfold startConnect
        rw [if_pos accepted]
        refine (settings_connectAsync net _).trans ?_
        cases destination <;> rfl
      · refine .refused destination port flags accepted ?_
        unfold startConnect
        rw [if_neg accepted]
    | disconnect =>
      obtain ⟨retry, settings⟩ := settings_disconnect c
      exact .disconnect retry settings
    | disableReconnect => exact .disableReconnect rfl
    | enableReconnect retries => exact .enableReconnect retries rfl
    | setWillReconnect will running written => exact .decides will running written rfl
    | delegateReturned running => exact turns_delegateReturned net running
    | retryExpires fired => exact .expires fired rfl
    | connectDone error pending => exact turns_connectDone sound pending error
    | runSendFinish index free posted =>
      refine .sendFinish index _ ?_ rfl
      simpa using (Bool.or_eq_false_iff.mp free).1
    | runDisconnected posted =>
      refine .reports posted ?_
      unfold disconnected
      exact congrArg (fun r : Running => { c.settings with running := some r }) rfl
    | runRetry taken => exact .pulses taken (settings_connectAsync net _)
    | runRetryAborted taken => exact .aborts taken rfl
    | destroy unused => exact .destroys unused rfl
    | _ => contradiction

end Client

end LaluneServer.NetLib
