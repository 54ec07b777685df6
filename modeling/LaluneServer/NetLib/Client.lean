import LaluneServer.Lib.DeadlineTimer
import LaluneServer.NetLib.TcpSession

/- NetLib_Client_Imp with the operations and handlers of its io_service. Handlers
   run one at a time; the public functions may be called at any moment, also by
   the delegate from inside a handler. Not modelled: socket options, the log, the
   durations of the two timers and the delegate's own state. -/
namespace LaluneServer.NetLib
open DeadlineTimer

/-- How boost.asio makes addresses; from_string throws on a malformed string. -/
structure Addresses (Address : Type*) where
  fromString : String → Option Address
  addressV4 : BitVec 32 → Address

inductive Destination where
  | ip (text : String)
  | ipNumber (value : BitVec 32)
  deriving DecidableEq, Repr

inductive Notification where
  | connected
  | reconnected
  | failedDataRelease (packet : NetlibPacket)
  deriving DecidableEq, Repr

/-- A handler that has called the delegate and goes on when the delegate returns. -/
inductive Running where
  | sendFinish (packet : NetlibPacket)
  | disconnected (willContinueReconnect : Bool)
  | reconnectFailed (willContinueReconnect : Bool)
  deriving DecidableEq, Repr

def Running.setWillReconnect (will : Bool) : Running → Option Running
  | .sendFinish _ => none
  | .disconnected _ => some (.disconnected will)
  | .reconnectFailed _ => some (.reconnectFailed will)

/-- The fields of the source, then what is outstanding in the io_service, then
    three ghosts: the packets accepted, the packets whose send-finish
    callback was called and the packets released. -/
structure Client (Address : Type*) where
  destIp : String := ""
  destIpU : BitVec 32 := 0
  tcpPort : BitVec 16 := 0
  flags : BitVec 64 := 0
  inDisconnectProcess : Bool := false
  lastError : NetLibError := .noError
  lastInternalError : Outcome := none
  manuallyDisconnect : Bool := false
  enableReconnect : Bool := true
  willReconnectIfDisconnected : Bool := false
  firstConnect : Bool := true
  maxContinuousRetries : Int := -1
  currentlyRetries : Int := 0
  reconnectRetryTimer : Timer := {}
  keepAliveTimer : Timer := {}
  failedDataQueue : List NetlibPacket := []
  connectedSession : Option TcpSession := none
  pendingOpsCount : Int := 0
  connects : List (Address × BitVec 16) := []
  sendFinishes : List NetlibPacket := []
  disconnectedPosts : Nat := 0
  notifications : List Notification := []
  running : Option Running := none
  destroyed : Bool := false
  accepted : List NetlibPacket := []
  finished : List NetlibPacket := []
  released : List NetlibPacket := []

def clientFlagKeepAlive : BitVec 64 := 0x1
def clientEnableReconnectOnFirstConnect : BitVec 64 := 0x80

namespace Client
variable {Address : Type*} (net : Addresses Address) (c : Client Address)

def increasePendingOpsCount : Client Address :=
  { c with pendingOpsCount := c.pendingOpsCount + 1 }

def decreasePendingOpsCount : Client Address :=
  let c := { c with pendingOpsCount := c.pendingOpsCount - 1 }
  if c.pendingOpsCount = 0 ∧ c.lastError ≠ .noError then
    { c with inDisconnectProcess := true, disconnectedPosts := c.disconnectedPosts + 1 }
  else c

def handleError (error : NetLibError) (errorCode : Outcome) : Client Address :=
  if c.lastError = .noError then
    { c with
      lastError := error
      lastInternalError := errorCode
      keepAliveTimer := c.keepAliveTimer.cancel }
  else c

/-- SendFailedHandler and SendCopyFailedHandler; the latter returns true, so its
    caller keeps the copy. -/
def sendFailedHandler (packet : NetlibPacket) : Client Address :=
  { c with failedDataQueue := c.failedDataQueue ++ [packet] }

/-- The delegate's RecvFinishHandler is user code. -/
def ownerCall (c : Client Address) : OwnerCall → Client Address
  | .increasePendingOpsCount => c.increasePendingOpsCount
  | .decreasePendingOpsCount => c.decreasePendingOpsCount
  | .handleError error internal => c.handleError error internal
  | .postSendFinish packet => { c with sendFinishes := c.sendFinishes ++ [packet] }
  | .recvFinishHandler _ => c
  | .sendFailedHandler packet => c.sendFailedHandler packet

def applySession (result : SessionResult) : Client Address :=
  result.2.foldl ownerCall { c with connectedSession := some result.1 }

def sendPacket (packet : NetlibPacket) : Client Address :=
  match c.connectedSession with
  | some s => if s.isConnected then c.applySession (s.sendAsync packet)
      else c.sendFailedHandler packet
  | none => c.sendFailedHandler packet

def accept (data : Bytes) (copy : Bool) (pHint : BitVec 64) : Client Address :=
  let packet : NetlibPacket :=
    { data := data, copy := copy, pHint := pHint, stamp := c.accepted.length }
  { c with accepted := c.accepted ++ [packet] }.sendPacket packet

def sendAsync (data : Bytes) (pHint : BitVec 64) : Client Address :=
  c.accept data false pHint

/-- The copy has the size that the length field of the data says. -/
def sendCopyAsync (data : Bytes) (pHint : BitVec 64) : Client Address :=
  c.accept (data.take (readUint32 data)) true pHint

def sendKeepAliveInFuture : Client Address :=
  { c with keepAliveTimer := c.keepAliveTimer.expiresFromNow }

def sendKeepAlive : Client Address :=
  (c.sendCopyAsync (uint32Bytes 4) 0).sendKeepAliveInFuture

/-- The loop of connected_handler over failed_data_queue. -/
def resendFailedData : List NetlibPacket → Client Address → Client Address
  | [], c => c
  | packet :: rest, c =>
    match c.connectedSession with
    | none => c
    | some s => resendFailedData rest
        ({ c with failedDataQueue := rest }.applySession (s.sendAsync packet))

/-- connected_handler as far as it tells the first connection from a reconnection. -/
def markConnected : Client Address :=
  let c := if c.enableReconnect then { c with willReconnectIfDisconnected := true } else c
  if c.currentlyRetries = 0 then
    { c with firstConnect := false, notifications := c.notifications ++ [.connected] }
  else
    { c with
      inDisconnectProcess := false
      currentlyRetries := 0
      notifications := c.notifications ++ [.reconnected] }

/-- The rest of connected_handler: the packets that failed before, and keep-alive. -/
def startTransfers : Client Address :=
  match c.connectedSession with
  | none => c
  | some _ =>
    let c := resendFailedData c.failedDataQueue c
    if c.flags &&& clientFlagKeepAlive ≠ 0 then
      c.increasePendingOpsCount.sendKeepAliveInFuture
    else c

def connectedHandler : Client Address := c.markConnected.startTransfers

/-- The address that tcp_connect_async connects to; `none` is the exception. -/
def endpointAddress : Option Address :=
  if c.destIpU = 0 then net.fromString c.destIp else some (net.addressV4 c.destIpU)

def tcpConnectAsync : Client Address :=
  match c.endpointAddress net with
  | some address =>
    let c := c.increasePendingOpsCount
    { c with connects := c.connects ++ [(address, c.tcpPort)] }
  | none => (c.handleError .clientConnectErrorStdEx none).decreasePendingOpsCount

def connectAsync : Client Address :=
  if c.manuallyDisconnect then c
  else tcpConnectAsync net { c with lastError := .noError, lastInternalError := none }

def acceptsConnect : Prop := c.pendingOpsCount = 0 ∧ c.inDisconnectProcess = false

instance : Decidable c.acceptsConnect := inferInstanceAs (Decidable (_ ∧ _))

def setDestination : Destination → Client Address
  | .ip text => { c with destIp := text, destIpU := 0 }
  | .ipNumber value => { c with destIpU := value }

def startConnect (destination : Destination) (port : BitVec 16) (flags : BitVec 64) :
    Client Address :=
  if c.acceptsConnect then
    connectAsync net { c.setDestination destination with
      manuallyDisconnect := false
      tcpPort := port
      flags := flags
      willReconnectIfDisconnected := flags &&& clientEnableReconnectOnFirstConnect ≠ 0 }
  else c

def tcpConnectedHandler (error : Outcome) : Client Address :=
  let c :=
    match error with
    | some code => c.handleError .clientConnectError (some code)
    | none =>
      if c.manuallyDisconnect then c
      else
        match c.connectedSession with
        | some s =>
          if s.isConnected then c
          else (c.applySession (TcpSession.start {})).connectedHandler
        | none => (c.applySession (TcpSession.start {})).connectedHandler
  c.decreasePendingOpsCount

/-- The part of Disconnect after no connected session was found. -/
def cancelConnect : Client Address :=
  let c := c.handleError .clientCancelConnectByLocal none
  { c with reconnectRetryTimer := c.reconnectRetryTimer.cancel }

def disconnect : Client Address :=
  let c := { c with manuallyDisconnect := true, willReconnectIfDisconnected := false }
  if c.inDisconnectProcess then c.cancelConnect
  else
    match c.connectedSession with
    | some s => if s.isConnected then c.applySession s.disconnect else c.cancelConnect
    | none => c.cancelConnect

def disableReconnect : Client Address :=
  { c with
    reconnectRetryTimer := c.reconnectRetryTimer.cancel
    enableReconnect := false
    willReconnectIfDisconnected := false
    maxContinuousRetries := 0 }

def enableReconnectWith (maxContinuousRetries : Int) : Client Address :=
  { c with enableReconnect := true, maxContinuousRetries := maxContinuousRetries }

def reconnectTimerPulse : Client Address :=
  connectAsync net { c with currentlyRetries := c.currentlyRetries + 1 }

def willContinueReconnect : Bool :=
  c.willReconnectIfDisconnected &&
    (c.maxContinuousRetries = -1 || c.currentlyRetries < c.maxContinuousRetries)

/-- disconnected() up to the call of the delegate. -/
def disconnected : Client Address :=
  let running :=
    if c.currentlyRetries = 0 then Running.disconnected c.willContinueReconnect
    else Running.reconnectFailed c.willContinueReconnect
  { c with running := some running }

/-- process_failed_packets, called only after DisconnectedHandler. -/
def processFailedPackets : Client Address :=
  match c.connectedSession with
  | some s => c.applySession s.processFailedPackets
  | none => c

/-- disconnected() from connected_session.reset() on. -/
def afterDisconnected (willContinueReconnect : Bool) : Client Address :=
  let c := { c with connectedSession := none }
  if c.willReconnectIfDisconnected ∧ willContinueReconnect then
    if c.currentlyRetries ≠ 0 ∨ c.firstConnect then
      { c with reconnectRetryTimer := c.reconnectRetryTimer.expiresFromNow }
    else connectAsync net { c with currentlyRetries := c.currentlyRetries + 1 }
  else
    { c with
      inDisconnectProcess := false
      willReconnectIfDisconnected := false
      currentlyRetries := 0 }

def delegateReturned (c : Client Address) : Running → Client Address
  | .sendFinish _ => { c with running := none }.decreasePendingOpsCount
  | .disconnected will =>
    { c with running := none }.processFailedPackets.afterDisconnected net will
  | .reconnectFailed will => { c with running := none }.afterDisconnected net will

/-- The notification that releases a packet of failed_data_queue; copies are
    deleted at once. -/
def releaseNotifications (packets : List NetlibPacket) : List Notification :=
  (packets.filter (fun packet => ! packet.copy)).map .failedDataRelease

def resetFailedData : Client Address :=
  { c with
    failedDataQueue := []
    released := c.released ++ c.failedDataQueue
    notifications := c.notifications ++ releaseNotifications c.failedDataQueue }

def destroy : Client Address :=
  { c with
    failedDataQueue := []
    released := c.released ++ c.failedDataQueue
    destroyed := true }

def busy : Bool :=
  c.running.isSome || c.connectedSession.any (fun s => s.reading = some .handling)

def unreferenced : Prop :=
  c.connects = [] ∧ c.connectedSession = none ∧ c.sendFinishes = [] ∧
  c.disconnectedPosts = 0 ∧ c.notifications = [] ∧ c.running = none ∧
  c.reconnectRetryTimer.waits = 0 ∧ c.keepAliveTimer.waits = 0

instance : Decidable c.unreferenced :=
  inferInstanceAs (Decidable (_ ∧ _ ∧ _ ∧ _ ∧ _ ∧ _ ∧ _ ∧ _))

end Client

inductive ClientEvent where
  | connectAsync (destination : Destination) (port : BitVec 16) (flags : BitVec 64)
  | disconnect
  | disableReconnect
  | enableReconnect (maxContinuousRetries : Int)
  | sendAsync (data : Bytes) (pHint : BitVec 64)
  | sendCopyAsync (data : Bytes) (pHint : BitVec 64)
  | resetFailedData
  | connectDone (error : Outcome)
  | headerRead (error : Outcome) (size : Nat)
  | bodyRead (error : Outcome) (rest : Bytes)
  | recvHandlerReturned
  | writeDone (error : Outcome)
  | runSendFinish (index : Nat)
  | runDisconnected
  | setWillReconnect (will : Bool)
  | delegateReturned
  | runNotification (index : Nat)
  | keepAliveExpires
  | runKeepAlive
  | runKeepAliveAborted
  | retryExpires
  | runRetry
  | runRetryAborted
  | destroy
  deriving DecidableEq, Repr

namespace Client
variable {Address : Type*} (net : Addresses Address) (maxPacketSize : Nat)

def runHandler (c : Client Address) : ClientEvent → Option (Client Address)
  | .connectDone error =>
    match c.connects with
    | [] => none
    | _ :: others => some ({ c with connects := others }.tcpConnectedHandler error)
  | .headerRead error size => c.connectedSession.bind fun s =>
      if s.reading = some .header then
        some (c.applySession (s.tcpHeaderRecv maxPacketSize error size))
      else none
  | .bodyRead error rest => c.connectedSession.bind fun s =>
      match s.reading with
      | some (.body size) =>
        if error.isSome ∨ rest.length = size then
          some (c.applySession (s.tcpRecvAsyncFinished error rest))
        else none
      | _ => none
  | .writeDone error => c.connectedSession.bind fun s => s.takeWrite.bind fun s =>
      (s.tcpSendAsyncFinished error).map c.applySession
  | .runSendFinish index => c.sendFinishes[index]?.map fun packet =>
      { c with
        sendFinishes := c.sendFinishes.eraseIdx index
        finished := c.finished ++ [packet]
        running := some (.sendFinish packet) }
  | .runDisconnected =>
    if c.disconnectedPosts = 0 then none
    else some { c with disconnectedPosts := c.disconnectedPosts - 1 }.disconnected
  | .runNotification index => c.notifications[index]?.map fun _ =>
      { c with notifications := c.notifications.eraseIdx index }
  | .runKeepAlive => c.keepAliveTimer.takeExpired.map fun timer =>
      { c with keepAliveTimer := timer }.sendKeepAlive
  | .runKeepAliveAborted => c.keepAliveTimer.takeAborted.map fun timer =>
      { c with keepAliveTimer := timer }.decreasePendingOpsCount
  | .runRetry => c.reconnectRetryTimer.takeExpired.map fun timer =>
      { c with reconnectRetryTimer := timer }.reconnectTimerPulse net
  | .runRetryAborted => c.reconnectRetryTimer.takeAborted.map fun timer =>
      { c with reconnectRetryTimer := timer }
  | .destroy => if c.unreferenced then some c.destroy else none
  | _ => none

/-- Public calls, the passing of time and what the delegate does are always possible;
    another handler starts only when none is running. -/
def step (c : Client Address) (event : ClientEvent) : Option (Client Address) :=
  if c.destroyed then none
  else
    match event with
    | .connectAsync destination port flags => some (c.startConnect net destination port flags)
    | .disconnect => some c.disconnect
    | .disableReconnect => some c.disableReconnect
    | .enableReconnect retries => some (c.enableReconnectWith retries)
    | .sendAsync data pHint => some (c.sendAsync data pHint)
    | .sendCopyAsync data pHint => some (c.sendCopyAsync data pHint)
    | .resetFailedData => some c.resetFailedData
    | .keepAliveExpires => c.keepAliveTimer.expire.map fun timer =>
        { c with keepAliveTimer := timer }
    | .retryExpires => c.reconnectRetryTimer.expire.map fun timer =>
        { c with reconnectRetryTimer := timer }
    | .recvHandlerReturned => c.connectedSession.bind fun s =>
        if s.reading = some .handling then
          some { c with connectedSession := some s.tcpReceiveAsync }
        else none
    | .setWillReconnect will => (c.running.bind (Running.setWillReconnect will)).map fun r =>
        { c with running := some r }
    | .delegateReturned => c.running.map (c.delegateReturned net)
    | event => if c.busy then none else c.runHandler net maxPacketSize event

inductive Occurs (c : Client Address) : ClientEvent → Client Address → Prop
  | connectAsync (destination : Destination) (port : BitVec 16) (flags : BitVec 64) :
    Occurs c (.connectAsync destination port flags) (c.startConnect net destination port flags)
  | disconnect : Occurs c .disconnect c.disconnect
  | disableReconnect : Occurs c .disableReconnect c.disableReconnect
  | enableReconnect (retries : Int) :
    Occurs c (.enableReconnect retries) (c.enableReconnectWith retries)
  | sendAsync (data : Bytes) (pHint : BitVec 64) :
    Occurs c (.sendAsync data pHint) (c.sendAsync data pHint)
  | sendCopyAsync (data : Bytes) (pHint : BitVec 64) :
    Occurs c (.sendCopyAsync data pHint) (c.sendCopyAsync data pHint)
  | resetFailedData : Occurs c .resetFailedData c.resetFailedData
  | keepAliveExpires {timer : Timer} (fired : c.keepAliveTimer.expire = some timer) :
    Occurs c .keepAliveExpires { c with keepAliveTimer := timer }
  | retryExpires {timer : Timer} (fired : c.reconnectRetryTimer.expire = some timer) :
    Occurs c .retryExpires { c with reconnectRetryTimer := timer }
  | recvHandlerReturned {s : TcpSession} (session : c.connectedSession = some s)
      (reading : s.reading = some .handling) :
    Occurs c .recvHandlerReturned { c with connectedSession := some s.tcpReceiveAsync }
  | setWillReconnect (will : Bool) {r t : Running} (running : c.running = some r)
      (written : r.setWillReconnect will = some t) :
    Occurs c (.setWillReconnect will) { c with running := some t }
  | delegateReturned {r : Running} (running : c.running = some r) :
    Occurs c .delegateReturned (c.delegateReturned net r)
  | connectDone (error : Outcome) {first : Address × BitVec 16}
      {others : List (Address × BitVec 16)} (pending : c.connects = first :: others) :
    Occurs c (.connectDone error) ({ c with connects := others }.tcpConnectedHandler error)
  | headerRead (error : Outcome) (size : Nat) {s : TcpSession}
      (session : c.connectedSession = some s) (reading : s.reading = some .header) :
    Occurs c (.headerRead error size)
      (c.applySession (s.tcpHeaderRecv maxPacketSize error size))
  | bodyRead (error : Outcome) (rest : Bytes) {s : TcpSession} {size : Nat}
      (session : c.connectedSession = some s) (reading : s.reading = some (.body size))
      (whole : error.isSome ∨ rest.length = size) :
    Occurs c (.bodyRead error rest) (c.applySession (s.tcpRecvAsyncFinished error rest))
  | writeDone (error : Outcome) {s t : TcpSession} {r : SessionResult}
      (session : c.connectedSession = some s) (taken : s.takeWrite = some t)
      (done : t.tcpSendAsyncFinished error = some r) :
    Occurs c (.writeDone error) (c.applySession r)
  | runSendFinish (index : Nat) {packet : NetlibPacket} (free : c.busy = false)
      (posted : c.sendFinishes[index]? = some packet) :
    Occurs c (.runSendFinish index)
      { c with
        sendFinishes := c.sendFinishes.eraseIdx index
        finished := c.finished ++ [packet]
        running := some (.sendFinish packet) }
  | runDisconnected (posted : c.disconnectedPosts ≠ 0) :
    Occurs c .runDisconnected
      { c with disconnectedPosts := c.disconnectedPosts - 1 }.disconnected
  | runNotification (index : Nat) {notification : Notification}
      (posted : c.notifications[index]? = some notification) :
    Occurs c (.runNotification index)
      { c with notifications := c.notifications.eraseIdx index }
  | runKeepAlive {timer : Timer} (taken : c.keepAliveTimer.takeExpired = some timer) :
    Occurs c .runKeepAlive { c with keepAliveTimer := timer }.sendKeepAlive
  | runKeepAliveAborted {timer : Timer} (taken : c.keepAliveTimer.takeAborted = some timer) :
    Occurs c .runKeepAliveAborted { c with keepAliveTimer := timer }.decreasePendingOpsCount
  | runRetry {timer : Timer} (taken : c.reconnectRetryTimer.takeExpired = some timer) :
    Occurs c .runRetry ({ c with reconnectRetryTimer := timer }.reconnectTimerPulse net)
  | runRetryAborted {timer : Timer} (taken : c.reconnectRetryTimer.takeAborted = some timer) :
    Occurs c .runRetryAborted { c with reconnectRetryTimer := timer }
  | destroy (unused : c.unreferenced) : Occurs c .destroy c.destroy

variable {net maxPacketSize} {c d : Client Address} {e : ClientEvent}

theorem occurs_of_handler (free : c.busy = false)
    (moved : c.runHandler net maxPacketSize e = some d) : Occurs net maxPacketSize c e d := by
  cases e with
  | connectDone error =>
    simp only [runHandler] at moved
    split at moved
    · contradiction
    · rename_i pending
      cases moved
      exact .connectDone error pending
  | headerRead error size =>
    obtain ⟨s, session, moved⟩ := Option.bind_eq_some_iff.mp moved
    split at moved
    · rename_i reading
      cases moved
      exact .headerRead error size session reading
    · contradiction
  | bodyRead error rest =>
    obtain ⟨s, session, moved⟩ := Option.bind_eq_some_iff.mp moved
    split at moved
    · rename_i reading
      split at moved
      · rename_i whole
        cases moved
        exact .bodyRead error rest session reading whole
      · contradiction
    · contradiction
  | writeDone error =>
    obtain ⟨s, session, moved⟩ := Option.bind_eq_some_iff.mp moved
    obtain ⟨t, taken, moved⟩ := Option.bind_eq_some_iff.mp moved
    obtain ⟨r, done, rfl⟩ := Option.map_eq_some_iff.mp moved
    exact .writeDone error session taken done
  | runSendFinish index =>
    obtain ⟨packet, posted, rfl⟩ := Option.map_eq_some_iff.mp moved
    exact .runSendFinish index free posted
  | runDisconnected =>
    simp only [runHandler] at moved
    split at moved
    · contradiction
    · rename_i posted
      cases moved
      exact .runDisconnected posted
  | runNotification index =>
    obtain ⟨notification, posted, rfl⟩ := Option.map_eq_some_iff.mp moved
    exact .runNotification index posted
  | runKeepAlive =>
    obtain ⟨timer, taken, rfl⟩ := Option.map_eq_some_iff.mp moved
    exact .runKeepAlive taken
  | runKeepAliveAborted =>
    obtain ⟨timer, taken, rfl⟩ := Option.map_eq_some_iff.mp moved
    exact .runKeepAliveAborted taken
  | runRetry =>
    obtain ⟨timer, taken, rfl⟩ := Option.map_eq_some_iff.mp moved
    exact .runRetry taken
  | runRetryAborted =>
    obtain ⟨timer, taken, rfl⟩ := Option.map_eq_some_iff.mp moved
    exact .runRetryAborted taken
  | destroy =>
    simp only [runHandler] at moved
    split at moved
    · rename_i unused
      cases moved
      exact .destroy unused
    · contradiction
  | connectAsync | disconnect | disableReconnect | enableReconnect | sendAsync | sendCopyAsync
  | resetFailedData | recvHandlerReturned | setWillReconnect | delegateReturned
  | keepAliveExpires | retryExpires =>
    simp [runHandler] at moved

theorem occurs_of_step (moved : step net maxPacketSize c e = some d) :
    Occurs net maxPacketSize c e d := by
  unfold step at moved
  split at moved
  · contradiction
  · cases e with
    | connectAsync destination port flags =>
      cases moved
      exact .connectAsync destination port flags
    | disconnect =>
      cases moved
      exact .disconnect
    | disableReconnect =>
      cases moved
      exact .disableReconnect
    | enableReconnect retries =>
      cases moved
      exact .enableReconnect retries
    | sendAsync data pHint =>
      cases moved
      exact .sendAsync data pHint
    | sendCopyAsync data pHint =>
      cases moved
      exact .sendCopyAsync data pHint
    | resetFailedData =>
      cases moved
      exact .resetFailedData
    | recvHandlerReturned =>
      obtain ⟨s, session, moved⟩ := Option.bind_eq_some_iff.mp moved
      split at moved
      · rename_i reading
        cases moved
        exact .recvHandlerReturned session reading
      · contradiction
    | setWillReconnect will =>
      obtain ⟨t, found, rfl⟩ := Option.map_eq_some_iff.mp moved
      obtain ⟨r, running, written⟩ := Option.bind_eq_some_iff.mp found
      exact .setWillReconnect will running written
    | delegateReturned =>
      obtain ⟨r, running, rfl⟩ := Option.map_eq_some_iff.mp moved
      exact .delegateReturned running
    | keepAliveExpires =>
      obtain ⟨timer, fired, rfl⟩ := Option.map_eq_some_iff.mp moved
      exact .keepAliveExpires fired
    | retryExpires =>
      obtain ⟨timer, fired, rfl⟩ := Option.map_eq_some_iff.mp moved
      exact .retryExpires fired
    | connectDone | headerRead | bodyRead | writeDone | runSendFinish | runDisconnected
    | runNotification | runKeepAlive | runKeepAliveAborted | runRetry | runRetryAborted
    | destroy =>
      simp only at moved
      split at moved
      · contradiction
      · rename_i free
        exact occurs_of_handler (by simpa using free) moved

end Client

end LaluneServer.NetLib
