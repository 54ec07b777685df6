import LaluneServer.Include.AvailableIDs
import LaluneServer.Lib.InverseIndex
import LaluneServer.Lib.Transition

/- ControlServer: the directory of the servers that said Hello, the groups by server
   type, and the address messages to the sessions of servers. -/
namespace LaluneServer.Control

open Std (TreeMap TreeSet)

abbrev Session := Nat

abbrev IPPort := BitVec 32 × Int32

instance : Ord IPPort := lexOrd

abbrev ServerGroup := TreeSet IPPort

structure AddressInfo where
  ip : BitVec 32
  port : BitVec 32
  serverId : BitVec 32
  serverType : BitVec 32
  deriving DecidableEq, Repr

structure Hello where
  myListeningPort : BitVec 32
  serverType : BitVec 32
  isServerStart : BitVec 32
  deriving DecidableEq, Repr

inductive Message
  | helloResult (serverId : BitVec 32)
  | addrInfoRefresh (list : List AddressInfo)
  | addrInfoAdd (addr : AddressInfo)
  | addrInfoRemove (addr : AddressInfo)
  | addrInfoRestart (serverId : BitVec 32)
  deriving DecidableEq, Repr

structure Reply where
  session : Session
  message : Message
  deriving DecidableEq, Repr

structure ControlServer where
  duringStartup : Bool := true
  availableIds : AvailableIDs := {}
  server2session : TreeMap IPPort Session := ∅
  serversInfo : TreeMap IPPort AddressInfo := ∅
  serverGroups : TreeMap Int ServerGroup := ∅
  attachedData : TreeMap Session IPPort := ∅

namespace ControlServer

/-- `Initialize`: one group for every server type up to `serverTypeMax`. -/
def initialized (serverTypeMax : Nat) : ControlServer :=
  { serverGroups := (List.range (serverTypeMax + 1)).foldl
      (fun groups (s : Nat) => groups.insert (s : Int) ∅) ∅ }

variable (control : ControlServer)

def generateAddressList : List AddressInfo := control.serversInfo.toList.map Prod.snd

def informAddressInfo (message : Message) : List Reply :=
  control.server2session.toList.map (fun entry => ⟨entry.2, message⟩)

/-- A group that does not exist is not touched. -/
def changeGroup (serverType : BitVec 32) (change : ServerGroup → ServerGroup) :
    TreeMap Int ServerGroup :=
  match control.serverGroups[serverType.toInt]? with
  | none => control.serverGroups
  | some group => control.serverGroups.insert serverType.toInt (change group)

/-- The constructor of ServerInfo and the insertion into the tables. -/
def addServer (ipPort : IPPort) (serverType : BitVec 32) : ControlServer × AddressInfo :=
  let given := control.availableIds.getId
  let addr : AddressInfo :=
    { ip := ipPort.1, port := ipPort.2.toBitVec, serverId := given.1, serverType := serverType }
  ({ control with
    availableIds := given.2
    serversInfo := control.serversInfo.insertIfNew ipPort addr
    serverGroups := control.changeGroup serverType (fun group => group.insert ipPort) }, addr)

/-- What every Hello does first. -/
def attach (session : Session) (ipPort : IPPort) : ControlServer :=
  { control with
    attachedData := control.attachedData.insert session ipPort
    server2session := control.server2session.insert ipPort session }

def helloNew (session : Session) (ipPort : IPPort) (serverType : BitVec 32) :
    ControlServer × List Reply :=
  let added := control.addServer ipPort serverType
  (added.1, ⟨session, .helloResult added.2.serverId⟩ ::
    if control.duringStartup then [] else added.1.informAddressInfo (.addrInfoAdd added.2))

/-- The Hello of a server that is known: it keeps its id and its type. -/
def helloAgain (session : Session) (addr : AddressInfo) : ControlServer × List Reply :=
  (control, ⟨session, .helloResult addr.serverId⟩ ::
    if control.duringStartup then []
    else control.informAddressInfo (.addrInfoRestart addr.serverId))

def helloStarted (session : Session) (ipPort : IPPort) (serverType : BitVec 32) :
    ControlServer × List Reply :=
  match control.serversInfo[ipPort]? with
  | none => control.helloNew session ipPort serverType
  | some addr => control.helloAgain session addr

def sayHello (session : Session) (remoteIp : BitVec 32) (hello : Hello) :
    ControlServer × List Reply :=
  let ipPort : IPPort := (remoteIp, Int32.ofBitVec hello.myListeningPort)
  let attached := control.attach session ipPort
  if hello.isServerStart = 1 then
    let greeted := attached.helloStarted session ipPort hello.serverType
    (greeted.1, greeted.2 ++
      if control.duringStartup then []
      else [⟨session, .addrInfoRefresh greeted.1.generateAddressList⟩])
  else (attached, [])

def recvKeepAliveHandler (session : Session) : Option IPPort :=
  (control.attachedData[session]?).filter (fun ipPort => ipPort ∈ control.serversInfo)

def removeServer (ipPort : IPPort) (addr : AddressInfo) : ControlServer :=
  { control with
    serverGroups := control.changeGroup addr.serverType (fun group => group.erase ipPort)
    availableIds := control.availableIds.releaseId addr.serverId
    serversInfo := control.serversInfo.erase ipPort }

def serverTimeout (ipPort : IPPort) : ControlServer × List Reply :=
  match control.serversInfo[ipPort]? with
  | none => (control, [])
  | some addr =>
    (control.removeServer ipPort addr, control.informAddressInfo (.addrInfoRemove addr))

def startupTimer : ControlServer × List Reply :=
  ({ control with duringStartup := false },
    control.informAddressInfo (.addrInfoRefresh control.generateAddressList))

/-- What the server reacts to. The length of a timeout is not modelled: the handler of
    a server's timer may run at any time. -/
inductive Event
  | sayHello (session : Session) (remoteIp : BitVec 32) (hello : Hello)
  | keepAlive (session : Session)
  | serverTimeout (ipPort : IPPort)
  | startupTimer
  deriving DecidableEq, Repr

def react : Event → ControlServer × List Reply
  | .sayHello session remoteIp hello => control.sayHello session remoteIp hello
  | .keepAlive _ => (control, [])
  | .serverTimeout ipPort => control.serverTimeout ipPort
  | .startupTimer => control.startupTimer

def step (e : Event) : Option ControlServer := some (control.react e).1

end ControlServer

end LaluneServer.Control
