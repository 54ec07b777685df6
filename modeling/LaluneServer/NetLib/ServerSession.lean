import LaluneServer.Lib.DeadlineTimer
import LaluneServer.Lib.Transition
import LaluneServer.NetLib.TcpSession

/- NetLib_ServerSession_Imp from the moment its connection is accepted, with the
   operations and handlers of its io_service. Handlers run one at a time; SendAsync,
   SendCopyAsync and Disconnect may be called at any moment, also by the delegate
   from inside a handler. Not modelled: addresses, the attached data, the log. -/
namespace LaluneServer.NetLib
open DeadlineTimer

def serverListenKeepAliveEvent : BitVec 64 := 0x100

inductive DelegateCall where
  | connectedHandler
  | disconnectedHandler (error : NetLibError) (errorCode : Outcome)
  | sendFinishHandler (packet : NetlibPacket)
  | sendFailedHandler (packet : NetlibPacket)
  | recvFinishHandler (data : Bytes)
  | recvKeepAliveHandler
  deriving DecidableEq, Repr

inductive ServerRunning where
  | connectedHandler
  | sendFinish (packet : NetlibPacket)
  | processFailed
  deriving DecidableEq, Repr

/-- The fields of the source and m_flags of its server, then what is outstanding in the
    io_service, then three ghosts: the packets accepted, the callbacks that were
    executed and the number of times disconnected() was started. -/
structure ServerSession where
  sessionDetail : Option TcpSession := some {}
  keepAliveTimer : Timer := {}
  serverFlags : BitVec 64 := 0
  inSessionsSet : Bool := false
  pendingOpsCount : Int := 0
  sendFinishes : List NetlibPacket := []
  sendFailures : List NetlibPacket := []
  disconnectedHandlers : List (NetLibError × Outcome) := []
  disconnectedPosts : Nat := 0
  running : Option ServerRunning := none
  accepted : List NetlibPacket := []
  calls : List DelegateCall := []
  teardowns : Nat := 0
  deriving DecidableEq

namespace ServerSession

variable (c : ServerSession)

def increasePendingOpsCount : ServerSession :=
  { c with pendingOpsCount := c.pendingOpsCount + 1 }

def decreasePendingOpsCount : ServerSession :=
  let c := { c with pendingOpsCount := c.pendingOpsCount - 1 }
  if c.pendingOpsCount = 0 then { c with disconnectedPosts := c.disconnectedPosts + 1 } else c

def handleError (error : NetLibError) (errorCode : Outcome) : ServerSession :=
  { c with
    keepAliveTimer := c.keepAliveTimer.cancel
    disconnectedHandlers := c.disconnectedHandlers ++ [(error, errorCode)] }

def refreshTimeoutTimer : ServerSession :=
  { c with keepAliveTimer := c.keepAliveTimer.expiresFromNow }

def call (delegateCall : DelegateCall) : ServerSession :=
  { c with calls := c.calls ++ [delegateCall] }

def recvFinishHandler (data : Bytes) : ServerSession :=
  let c := c.refreshTimeoutTimer
  if readUint32 data = 4 then
    if c.serverFlags &&& serverListenKeepAliveEvent ≠ 0 then c.call .recvKeepAliveHandler else c
  else c.call (.recvFinishHandler data)

def ownerCall (c : ServerSession) : OwnerCall → ServerSession
  | .increasePendingOpsCount => c.increasePendingOpsCount
  | .decreasePendingOpsCount => c.decreasePendingOpsCount
  | .handleError error internal => c.handleError error internal
  | .postSendFinish packet => { c with sendFinishes := c.sendFinishes ++ [packet] }
  | .recvFinishHandler data => c.recvFinishHandler data
  | .sendFailedHandler packet => c.call (.sendFailedHandler packet)

def withSession (s : TcpSession) : ServerSession := { c with sessionDetail := some s }

def applySession (result : SessionResult) : ServerSession :=
  result.2.foldl ownerCall (c.withSession result.1)

def postSendFailed (packet : NetlibPacket) : ServerSession :=
  { c with sendFailures := c.sendFailures ++ [packet] }

def sendPacket (packet : NetlibPacket) : ServerSession :=
  match c.sessionDetail with
  | some s => if s.isConnected then c.applySession (s.sendAsync packet)
      else c.postSendFailed packet
  | none => c.postSendFailed packet

def accept (data : Bytes) (copy : Bool) (pHint : BitVec 64) : ServerSession :=
  let packet : NetlibPacket :=
    { data := data, copy := copy, pHint := pHint, stamp := c.accepted.length }
  { c with accepted := c.accepted ++ [packet] }.sendPacket packet

def sendAsync (data : Bytes) (pHint : BitVec 64) : ServerSession :=
  c.accept data false pHint

def sendCopyAsync (data : Bytes) (pHint : BitVec 64) : ServerSession :=
  c.accept (data.take (readUint32 data)) true pHint

def disconnect : ServerSession :=
  match c.sessionDetail with
  | some s => c.applySession s.disconnect
  | none => c

def timeoutHandler : ServerSession :=
  match c.sessionDetail with
  | some s => if s.isConnected then c.applySession (s.disconnect .sessionTimeout) else c
  | none => c

/-- connected_handler of the server, up to the call of the delegate. -/
def connectedHandler : ServerSession :=
  { { c with inSessionsSet := true }.refreshTimeoutTimer with running := some .connectedHandler }

/-- tcp_accept_handler with a new session, up to the call of the delegate. -/
def tcpAcceptHandler (serverFlags : BitVec 64) : ServerSession :=
  ({ serverFlags := serverFlags } : ServerSession).connectedHandler

/-- The loop of process_failed_packets, and after it the rest of disconnected(). -/
def processFailedPackets (s : TcpSession) : ServerSession :=
  match s.asyncSendQueue with
  | [] => { c with sessionDetail := none, inSessionsSet := false, running := none }
  | _ :: _ => { c with sessionDetail := some s, running := some .processFailed }

/-- What follows a callback. `none` stands for the use of session_detail without an
    object and of the front of an empty queue. -/
def delegateReturned (c : ServerSession) : ServerRunning → Option ServerSession
  | .connectedHandler => c.sessionDetail.map fun s =>
      ({ c with running := none }.call .connectedHandler).applySession s.start
  | .sendFinish packet =>
      some ({ c with running := none }.call (.sendFinishHandler packet)).decreasePendingOpsCount
  | .processFailed => c.sessionDetail.bind fun s =>
      match s.asyncSendQueue with
      | [] => none
      | front :: rest => some ((c.call (.sendFailedHandler front)).processFailedPackets
          { s with asyncSendQueue := rest })

def busy : Bool :=
  c.running.isSome || c.sessionDetail.any (fun s => s.reading = some .handling)

end ServerSession

inductive ServerSessionEvent where
  | sendAsync (data : Bytes) (pHint : BitVec 64)
  | sendCopyAsync (data : Bytes) (pHint : BitVec 64)
  | disconnect
  | headerRead (error : Outcome) (size : Nat)
  | bodyRead (error : Outcome) (rest : Bytes)
  | recvHandlerReturned
  | writeDone (error : Outcome)
  | runSendFinish (index : Nat)
  | runSendFailed (index : Nat)
  | runDisconnectedHandler (index : Nat)
  | runDisconnected
  | delegateReturned
  | timerExpires
  | runTimeout
  | runTimeoutAborted
  deriving DecidableEq, Repr

namespace ServerSession

variable (maxPacketSize : Nat)

def runHandler (c : ServerSession) : ServerSessionEvent → Option ServerSession
  | .headerRead error size => c.sessionDetail.bind fun s =>
      if s.reading = some .header then
        some (c.applySession (s.tcpHeaderRecv maxPacketSize error size))
      else none
  | .bodyRead error rest => c.sessionDetail.bind fun s =>
      match s.reading with
      | some (.body size) =>
        if error.isSome ∨ rest.length = size then
          some (c.applySession (s.tcpRecvAsyncFinished error rest))
        else none
      | _ => none
  | .writeDone error => c.sessionDetail.bind fun s => s.takeWrite.bind fun s =>
      (s.tcpSendAsyncFinished error).map c.applySession
  | .runSendFinish index => c.sendFinishes[index]?.map fun packet =>
      { c with
        sendFinishes := c.sendFinishes.eraseIdx index
        running := some (.sendFinish packet) }
  | .runSendFailed index => c.sendFailures[index]?.map fun packet =>
      { c with sendFailures := c.sendFailures.eraseIdx index }.call (.sendFailedHandler packet)
  | .runDisconnectedHandler index => c.disconnectedHandlers[index]?.map fun (error, code) =>
      { c with disconnectedHandlers := c.disconnectedHandlers.eraseIdx index }.call
        (.disconnectedHandler error code)
  | .runDisconnected =>
    if c.disconnectedPosts = 0 then none
    else c.sessionDetail.map fun s =>
      { c with
        disconnectedPosts := c.disconnectedPosts - 1
        teardowns := c.teardowns + 1 }.processFailedPackets s
  | .runTimeout => c.keepAliveTimer.takeExpired.map fun timer =>
      { c with keepAliveTimer := timer }.timeoutHandler
  | .runTimeoutAborted => c.keepAliveTimer.takeAborted.map fun timer =>
      { c with keepAliveTimer := timer }
  | _ => none

/-- Public calls, the passing of time and the return of the delegate are always
    possible; another handler starts only when none is running. -/
def step (c : ServerSession) (event : ServerSessionEvent) : Option ServerSession :=
  match event with
  | .sendAsync data pHint => some (c.sendAsync data pHint)
  | .sendCopyAsync data pHint => some (c.sendCopyAsync data pHint)
  | .disconnect => some c.disconnect
  | .timerExpires => c.keepAliveTimer.expire.map fun timer => { c with keepAliveTimer := timer }
  | .recvHandlerReturned => c.sessionDetail.bind fun s =>
      if s.reading = some .handling then some (c.withSession s.tcpReceiveAsync) else none
  | .delegateReturned => c.running.bind c.delegateReturned
  | event => if c.busy then none else c.runHandler maxPacketSize event

inductive Occurs (c : ServerSession) : ServerSessionEvent → ServerSession → Prop
  | sendAsync (data : Bytes) (pHint : BitVec 64) :
    Occurs c (.sendAsync data pHint) (c.sendAsync data pHint)
  | sendCopyAsync (data : Bytes) (pHint : BitVec 64) :
    Occurs c (.sendCopyAsync data pHint) (c.sendCopyAsync data pHint)
  | disconnect : Occurs c .disconnect c.disconnect
  | timerExpires {timer : Timer} (fired : c.keepAliveTimer.expire = some timer) :
    Occurs c .timerExpires { c with keepAliveTimer := timer }
  | recvHandlerReturned {s : TcpSession} (session : c.sessionDetail = some s)
      (reading : s.reading = some .handling) :
    Occurs c .recvHandlerReturned (c.withSession s.tcpReceiveAsync)
  | delegateReturned {r : ServerRunning} {d : ServerSession} (running : c.running = some r)
      (returned : c.delegateReturned r = some d) :
    Occurs c .delegateReturned d
  | headerRead (error : Outcome) (size : Nat) {s : TcpSession}
      (session : c.sessionDetail = some s) (reading : s.reading = some .header) :
    Occurs c (.headerRead error size)
      (c.applySession (s.tcpHeaderRecv maxPacketSize error size))
  | bodyRead (error : Outcome) (rest : Bytes) {s : TcpSession} {size : Nat}
      (session : c.sessionDetail = some s) (reading : s.reading = some (.body size))
      (whole : error.isSome ∨ rest.length = size) :
    Occurs c (.bodyRead error rest) (c.applySession (s.tcpRecvAsyncFinished error rest))
  | writeDone (error : Outcome) {s t : TcpSession} {r : SessionResult} (idle : c.running = none)
      (session : c.sessionDetail = some s) (taken : s.takeWrite = some t)
      (done : t.tcpSendAsyncFinished error = some r) :
    Occurs c (.writeDone error) (c.applySession r)
  | runSendFinish (index : Nat) {packet : NetlibPacket} (idle : c.running = none)
      (posted : c.sendFinishes[index]? = some packet) :
    Occurs c (.runSendFinish index)
      { c with
        sendFinishes := c.sendFinishes.eraseIdx index
        running := some (.sendFinish packet) }
  | runSendFailed (index : Nat) {packet : NetlibPacket}
      (posted : c.sendFailures[index]? = some packet) :
    Occurs c (.runSendFailed index)
      ({ c with sendFailures := c.sendFailures.eraseIdx index }.call (.sendFailedHandler packet))
  | runDisconnectedHandler (index : Nat) {error : NetLibError} {code : Outcome}
      (posted : c.disconnectedHandlers[index]? = some (error, code)) :
    Occurs c (.runDisconnectedHandler index)
      ({ c with disconnectedHandlers := c.disconnectedHandlers.eraseIdx index }.call
        (.disconnectedHandler error code))
  | runDisconnected {s : TcpSession} (idle : c.running = none)
      (posted : c.disconnectedPosts ≠ 0) (session : c.sessionDetail = some s) :
    Occurs c .runDisconnected
      ({ c with
        disconnectedPosts := c.disconnectedPosts - 1
        teardowns := c.teardowns + 1 }.processFailedPackets s)
  | runTimeout {timer : Timer} (taken : c.keepAliveTimer.takeExpired = some timer) :
    Occurs c .runTimeout { c with keepAliveTimer := timer }.timeoutHandler
  | runTimeoutAborted {timer : Timer} (taken : c.keepAliveTimer.takeAborted = some timer) :
    Occurs c .runTimeoutAborted { c with keepAliveTimer := timer }

variable {maxPacketSize : Nat} {c d : ServerSession} {e : ServerSessionEvent}

theorem occurs_of_handler (free : c.busy = false) (moved : c.runHandler maxPacketSize e = some d) :
    Occurs maxPacketSize c e d := by
  have idle : c.running = none := by
    unfold busy at free
    simpa using (Bool.or_eq_false_iff.mp free).1
  cases e with
  | headerRead error size =>
    obtain ⟨s, session, moved⟩ := Option.bind_eq_some_iff.mp moved
    split at moved
    · rename_i reading
      cases moved
      exact .headerRead error size session reading
    · contradiction
  | bodyRead error rest =>
    obtain ⟨s, session, moved⟩ := Option.bind_eq_some_iff.mp moved
    split at moved
    · rename_i reading
      split at moved
      · rename_i whole
        cases moved
        exact .bodyRead error rest session reading whole
      · contradiction
    · contradiction
  | writeDone error =>
    obtain ⟨s, session, moved⟩ := Option.bind_eq_some_iff.mp moved
    obtain ⟨t, taken, moved⟩ := Option.bind_eq_some_iff.mp moved
    obtain ⟨r, done, rfl⟩ := Option.map_eq_some_iff.mp moved
    exact .writeDone error idle session taken done
  | runSendFinish index =>
    obtain ⟨packet, posted, rfl⟩ := Option.map_eq_some_iff.mp moved
    exact .runSendFinish index idle posted
  | runSendFailed index =>
    obtain ⟨packet, posted, rfl⟩ := Option.map_eq_some_iff.mp moved
    exact .runSendFailed index posted
  | runDisconnectedHandler index =>
    obtain ⟨⟨error, code⟩, posted, rfl⟩ := Option.map_eq_some_iff.mp moved
    exact .runDisconnectedHandler index posted
  | runDisconnected =>
    simp only [runHandler] at moved
    split at moved
    · contradiction
    · rename_i posted
      obtain ⟨s, session, rfl⟩ := Option.map_eq_some_iff.mp moved
      exact .runDisconnected idle posted session
  | runTimeout =>
    obtain ⟨timer, taken, rfl⟩ := Option.map_eq_some_iff.mp moved
    exact .runTimeout taken
  | runTimeoutAborted =>
    obtain ⟨timer, taken, rfl⟩ := Option.map_eq_some_iff.mp moved
    exact .runTimeoutAborted taken
  | sendAsync | sendCopyAsync | disconnect | recvHandlerReturned | delegateReturned
  | timerExpires =>
    simp [runHandler] at moved

theorem occurs_of_step (moved : step maxPacketSize c e = some d) :
    Occurs maxPacketSize c e d := by
  cases e with
  | sendAsync data pHint =>
    cases moved
    exact .sendAsync data pHint
  | sendCopyAsync data pHint =>
    cases moved
    exact .sendCopyAsync data pHint
  | disconnect =>
    cases moved
    exact .disconnect
  | timerExpires =>
    obtain ⟨timer, fired, rfl⟩ := Option.map_eq_some_iff.mp moved
    exact .timerExpires fired
  | recvHandlerReturned =>
    obtain ⟨s, session, moved⟩ := Option.bind_eq_some_iff.mp moved
    split at moved
    · rename_i reading
      cases moved
      exact .recvHandlerReturned session reading
    · contradiction
  | delegateReturned =>
    obtain ⟨r, running, moved⟩ := Option.bind_eq_some_iff.mp moved
    exact .delegateReturned running moved
  | headerRead | bodyRead | writeDone | runSendFinish | runSendFailed | runDisconnectedHandler
  | runDisconnected | runTimeout | runTimeoutAborted =>
    simp only [step] at moved
    split at moved
    · contradiction
    · rename_i free
      exact occurs_of_handler (by simpa using free) moved

end ServerSession

end LaluneServer.NetLib
