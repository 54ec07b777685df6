import LaluneServer.Include.AvailableIDs
import LaluneServer.NetLibPlus.Registry
import LaluneServer.ServerCommon.Frame

/- The gateway: user frames go to back-end servers with a header extension that names
   the user, and the replies of back-end servers go back by that name. -/
namespace LaluneServer.Gateway

open Std (TreeMap)
open NetLib ServerCommon

abbrev Session := Nat

/-- The constants of the message types, which are defined outside. -/
structure ServerTypes where
  msgTypeSpan : Nat
  gatewayServer : Int
  versionServer : Int
  accountServer : Int
  basicInfoServer : Int
  leagueServer : Int
  asyncBattleServer : Int
  autoMatchServer : Int
  deriving DecidableEq, Repr

namespace ServerTypes

variable (types : ServerTypes)

def notForwarded (serverType : Int) : Bool :=
  serverType = types.gatewayServer ∨ serverType = types.basicInfoServer ∨
    serverType = types.leagueServer ∨ serverType = types.asyncBattleServer

def beforeLogin (serverType : Int) : Bool :=
  serverType = types.versionServer ∨ serverType = types.accountServer ∨
    serverType = types.autoMatchServer

end ServerTypes

def userDataLen (data : Bytes) : Nat :=
  (BitVec.ofNat 32 (msgLength data) - BitVec.ofNat 32 msgHeaderBaseSize).toNat

def userPayload (data : Bytes) : Bytes := (data.drop msgHeaderBaseSize).take (userDataLen data)

def forwardFrame (ex : HeaderEx) (data : Bytes) : Bytes :=
  buildMsg (msgType data) ex (userPayload data)

def userReplyFrame (data : Bytes) : Bytes :=
  msgHeader (msgHeaderBaseSize + (msgPayload data).length) (msgType data) 0 ++ msgPayload data

/-- A frame on its way to a back-end server. The sender, the number attached to it and
    the header extension are kept beside the frame. -/
structure Forward where
  session : Session
  attached : Int
  serverId : Int
  header : HeaderEx
  frame : Bytes
  deriving DecidableEq, Repr

structure GatewayServer where
  user2session : TreeMap Int Session := ∅
  availableTmpIds : AvailableIDs := {}
  attachedData : TreeMap Session Int := ∅

/-- What a handler leaves, with the numbers that GetTmpUserId returned. -/
structure Outcome where
  gateway : GatewayServer
  handedOut : List Int := []
  forward : Option Forward := none

namespace GatewayServer

variable (types : ServerTypes) (gateway : GatewayServer)

def getAttachedData (session : Session) : Int := gateway.attachedData[session]?.getD 0

def getTmpUserId : Int × GatewayServer :=
  let given := gateway.availableTmpIds.getId
  (given.1.toInt, { gateway with availableTmpIds := given.2 })

def releaseTmpUserId (id : Int) : GatewayServer :=
  { gateway with availableTmpIds := gateway.availableTmpIds.releaseId (BitVec.ofInt 32 id) }

def updateUserSession (uid : Int) (session : Session) : GatewayServer :=
  { gateway with user2session := gateway.user2session.insert uid session }

def userSessionLeft (uid : Int) : GatewayServer :=
  { gateway with user2session := gateway.user2session.erase uid }

def getSessionById (uid : Int) : Option Session := gateway.user2session[uid]?

/-- The handler of the delegate. It has one parameter, so it does not override the
    handler that NetLib calls. -/
def disconnectedHandler (session : Session) : GatewayServer :=
  let id := gateway.getAttachedData session
  if id = 0 then gateway
  else if id < 0 then (gateway.userSessionLeft id).releaseTmpUserId (-id)
  else gateway.userSessionLeft id

def attachTmpUserId (session : Session) : Int × GatewayServer × List Int :=
  let attached := gateway.getAttachedData session
  if attached = 0 then
    let given := gateway.getTmpUserId
    let marked :=
      { given.2 with attachedData := given.2.attachedData.insert session given.1 }
    (given.1, marked.updateUserSession (-given.1) session, [given.1])
  else (attached, gateway, [])

def serverType (data : Bytes) : Int := (BitVec.ofNat 32 (msgType data / types.msgTypeSpan)).toInt

/-- The first known server of a type. -/
def backEnd (registry : NetLibPlus.Registry) (serverType : Int) : Option Int :=
  (registry.getClientsInfo serverType).infos.toList.head?.map Prod.fst

def send (session : Session) (attached : Int) (serverId : Int) (ex : HeaderEx) (data : Bytes) :
    Forward :=
  ⟨session, attached, serverId, ex, forwardFrame ex data⟩

def forwardBeforeLogin (session : Session) (serverId : Int) (data : Bytes) : Outcome :=
  let tmp := gateway.attachTmpUserId session
  { gateway := tmp.2.1
    handedOut := tmp.2.2
    forward := some (send session tmp.1 serverId
      { operationId := some (BitVec.ofInt 32 tmp.1) } data) }

def forwardAfterLogin (session : Session) (serverId : Int) (data : Bytes) : Outcome :=
  let uid := gateway.getAttachedData session
  if uid = 0 then { gateway := gateway }
  else
    { gateway := gateway
      forward := some (send session uid serverId { uid := some (BitVec.ofInt 32 uid) } data) }

def recvFinishHandler (registry : NetLibPlus.Registry) (session : Session) (data : Bytes) :
    Outcome :=
  if msgLength data < msgHeaderBaseSize then { gateway := gateway }
  else if types.notForwarded (serverType types data) then { gateway := gateway }
  else
    match backEnd registry (serverType types data) with
    | none => { gateway := gateway }
    | some serverId =>
      if types.beforeLogin (serverType types data) then
        gateway.forwardBeforeLogin session serverId data
      else gateway.forwardAfterLogin session serverId data

end GatewayServer

/-- Temporary ids are negative among the keys of the sessions. -/
def addressee (ex : HeaderEx) : Option Int :=
  match ex.uid with
  | some uid => some uid.toInt
  | none => ex.operationId.map (fun operationId => -operationId.toInt)

/-- `toBackEndDelegate::RecvFinishHandler`: the session and the frame it is sent. -/
def recvReply (parser : HeaderExParser) (gateway : GatewayServer) (data : Bytes) :
    Option (Session × Bytes) :=
  if msgLength data < msgHeaderBaseSize then none
  else
    ((parseHeaderEx parser data).bind addressee).bind (fun id =>
      (gateway.getSessionById id).map (fun session => (session, userReplyFrame data)))

structure Delivery where
  requester : Session
  receiver : Session
  frame : Bytes
  deriving DecidableEq, Repr

structure World where
  gateway : GatewayServer := {}
  served : List Session := []
  left : List Session := []
  handedOut : List Int := []
  forwards : List Forward := []
  deliveries : List Delivery := []

/-- A back-end reply answers a forwarded frame and echoes its header extension. -/
inductive Event
  | connected (session : Session)
  | userFrame (session : Session) (data : Bytes) (registry : NetLibPlus.Registry)
  | disconnected (session : Session) (handlerCalled : Bool)
  | backEndReply (forward : Nat) (type : Nat) (proto : Bytes)

namespace World

variable (types : ServerTypes) (parser : HeaderExParser) (w : World)

def record (outcome : Outcome) : World :=
  { w with
    gateway := outcome.gateway
    handedOut := w.handedOut ++ outcome.handedOut
    forwards := w.forwards ++ outcome.forward.toList }

def deliver (forward : Forward) (data : Bytes) : World :=
  { w with
    deliveries := w.deliveries ++ (recvReply parser w.gateway data).toList.map
      (fun sent => ⟨forward.session, sent.1, sent.2⟩) }

def step : Event → Option World
  | .connected session =>
    if session ∈ w.served then none else some { w with served := session :: w.served }
  | .userFrame session data registry =>
    if session ∈ w.served ∧ session ∉ w.left then
      some (w.record (w.gateway.recvFinishHandler types registry session data))
    else none
  | .disconnected session handlerCalled =>
    if session ∈ w.served ∧ session ∉ w.left then
      some { w with
        left := session :: w.left
        gateway := if handlerCalled then w.gateway.disconnectedHandler session else w.gateway }
    else none
  | .backEndReply forward type proto =>
    if type < 2 ^ 32 ∧ Sendable proto then
      (w.forwards[forward]?).map (fun asked =>
        w.deliver parser asked (replyMsgEx type asked.header proto))
    else none

end World

end LaluneServer.Gateway
