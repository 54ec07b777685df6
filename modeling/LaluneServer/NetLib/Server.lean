import LaluneServer.NetLib.ServerSessionRuns

/- NetLib_Server_Imp: the accept loop, StartTCP and Stop, with the sessions that the
   server has made. One thread runs the io_service, so a handler of a session comes after
   the one before it has returned; StartTCP, Stop and the calls of the delegate come from
   any thread. The accept loop is interrupted wherever it takes a mutex or reads m_closed.
   Not modelled: the socket options, addresses, the log. -/
namespace LaluneServer.NetLib

inductive ServerError where
  | tcpOpenFail
  | tcpBindFail
  | tcpListenFail
  | tcpAcceptError
  deriving DecidableEq, Repr

inductive Stopping where
  | closeAcceptor
  | disconnect (remaining : List Nat)
  deriving DecidableEq, Repr

/-- The fields of the source, with every session that was made: those with
    inSessionsSet are in sessions_set. Then the number of threads that stand at each point
    of the accept loop and of Stop, the accepts outstanding in the io_service, and five
    ghosts. -/
structure NetLibServer where
  started : Bool := false
  closed : Bool := false
  flags : BitVec 64 := 0
  acceptorOpen : Bool := false
  sessions : List ServerSession := []
  listening : Nat := 0
  startAccepting : Nat := 0
  startArming : Nat := 0
  handlerAccepting : Nat := 0
  handlerArming : Nat := 0
  connecting : Nat := 0
  stopsWaiting : Nat := 0
  stopping : Option Stopping := none
  pendingAccepts : Nat := 0
  acceptedSockets : Nat := 0
  failedAccepts : Nat := 0
  startResults : List Bool := []
  errors : List ServerError := []
  quietEnds : Nat := 0
  swept : Nat := 0
  stopsDone : Nat := 0
  deriving DecidableEq

inductive NetLibServerEvent where
  | startTCP (flags : BitVec 64)
  | listen (error : Option ServerError)
  | startAccept
  | startArm
  | connectionArrives
  | acceptFails
  | tcpAcceptHandler
  | tcpAcceptHandlerError
  | handlerAccept
  | handlerArm
  | connectedHandler
  | session (index : Nat) (event : ServerSessionEvent)
  | stop
  | stopLocks
  | stopCloses
  | stopDisconnects
  deriving DecidableEq, Repr

namespace NetLibServer

variable (w : NetLibServer)

def startTCP (flags : BitVec 64) : NetLibServer :=
  if w.started ∨ w.closed then { w with startResults := w.startResults ++ [false] }
  else { w with started := true, flags := flags, listening := w.listening + 1 }

/-- tcp_start_listen up to tcp_accept_async. A failed bind or listen closes the acceptor
    again. -/
def tcpStartListen : Option ServerError → NetLibServer
  | none => { w with
      listening := w.listening - 1
      acceptorOpen := true
      startAccepting := w.startAccepting + 1 }
  | some error => { w with
      listening := w.listening - 1
      acceptorOpen := false
      errors := w.errors ++ [error]
      startResults := w.startResults ++ [false] }

/-- async_accept, which fails at once when the acceptor is not open. -/
def asyncAccept : NetLibServer :=
  if w.acceptorOpen then { w with pendingAccepts := w.pendingAccepts + 1 }
  else { w with failedAccepts := w.failedAccepts + 1 }

/-- connected_handler, up to the call of the delegate. -/
def connectedHandler : NetLibServer :=
  { w with
    connecting := w.connecting - 1
    sessions := w.sessions ++ [ServerSession.tcpAcceptHandler w.flags] }

def closeAcceptor : NetLibServer :=
  if w.acceptorOpen then
    { w with
      acceptorOpen := false
      failedAccepts := w.failedAccepts + w.pendingAccepts
      pendingAccepts := 0 }
  else w

def sessionsSet : List Nat :=
  (List.range w.sessions.length).filter fun i => w.sessions[i]?.any (·.inSessionsSet)

/-- A session's event, which waits for the mutex where it erases the session from
    sessions_set. With more threads a packet sent in ConnectedHandler could be finished
    before start(); one thread runs no other handler of the session until then. -/
def sessionStep (maxPacketSize : Nat) (index : Nat) (event : ServerSessionEvent) :
    Option NetLibServer :=
  w.sessions[index]?.bind fun c => (c.step maxPacketSize event).bind fun d =>
    if w.stopping.isSome ∧ d.inSessionsSet ≠ c.inSessionsSet then none
    else some { w with sessions := w.sessions.set index d }

def step (maxPacketSize : Nat) (w : NetLibServer) : NetLibServerEvent → Option NetLibServer
  | .startTCP flags => some (w.startTCP flags)
  | .listen error =>
    if w.listening = 0 ∨ error = some .tcpAcceptError then none else some (w.tcpStartListen error)
  | .startAccept =>
    if w.startAccepting = 0 then none
    else
      let w := { w with startAccepting := w.startAccepting - 1 }
      if w.closed then
        some { w with
          quietEnds := w.quietEnds + 1
          startResults := w.startResults ++ [true] }
      else some { w with startArming := w.startArming + 1 }
  | .startArm =>
    if w.startArming = 0 then none
    else some { w with
      startArming := w.startArming - 1
      startResults := w.startResults ++ [true] }.asyncAccept
  | .connectionArrives =>
    if w.pendingAccepts = 0 then none
    else some { w with
      pendingAccepts := w.pendingAccepts - 1
      acceptedSockets := w.acceptedSockets + 1 }
  | .acceptFails =>
    if w.pendingAccepts = 0 then none
    else some { w with
      pendingAccepts := w.pendingAccepts - 1
      failedAccepts := w.failedAccepts + 1 }
  | .tcpAcceptHandler =>
    if w.acceptedSockets = 0 then none
    else
      let w := { w with acceptedSockets := w.acceptedSockets - 1 }
      if w.closed then some { w with quietEnds := w.quietEnds + 1 }
      else some { w with handlerAccepting := w.handlerAccepting + 1 }
  | .tcpAcceptHandlerError =>
    if w.failedAccepts = 0 then none
    else some { w with
      failedAccepts := w.failedAccepts - 1
      errors := w.errors ++ [.tcpAcceptError] }
  | .handlerAccept =>
    if w.handlerAccepting = 0 then none
    else
      let w := { w with handlerAccepting := w.handlerAccepting - 1 }
      if w.closed then
        some { w with
          quietEnds := w.quietEnds + 1
          connecting := w.connecting + 1 }
      else some { w with handlerArming := w.handlerArming + 1 }
  | .handlerArm =>
    if w.handlerArming = 0 then none
    else some { w with
      handlerArming := w.handlerArming - 1
      connecting := w.connecting + 1 }.asyncAccept
  | .connectedHandler =>
    if w.connecting = 0 ∨ w.stopping.isSome then none else some w.connectedHandler
  | .session index event => w.sessionStep maxPacketSize index event
  | .stop => some { w with closed := true, stopsWaiting := w.stopsWaiting + 1 }
  | .stopLocks =>
    if w.stopsWaiting = 0 ∨ w.stopping.isSome then none
    else some { w with stopsWaiting := w.stopsWaiting - 1, stopping := some .closeAcceptor }
  | .stopCloses =>
    if w.stopping = some .closeAcceptor then
      some { w.closeAcceptor with stopping := some (.disconnect w.sessionsSet) }
    else none
  | .stopDisconnects =>
    match w.stopping with
    | some (.disconnect []) => some { w with
        stopping := none
        swept := w.sessions.length
        stopsDone := w.stopsDone + 1 }
    | some (.disconnect (i :: rest)) => some { w with
        sessions := w.sessions.modify i ServerSession.disconnect
        stopping := some (.disconnect rest) }
    | _ => none

/-- The threads that stand in the loop before async_accept, the accept operation itself,
    and its handler before it has called tcp_accept_async. -/
def acceptsUnderWay : Nat :=
  w.listening + w.startAccepting + w.startArming + w.handlerAccepting + w.handlerArming +
    w.pendingAccepts + w.acceptedSockets + w.failedAccepts

def connectionsUnderWay : Nat := w.handlerAccepting + w.handlerArming + w.connecting

end NetLibServer

end LaluneServer.NetLib
