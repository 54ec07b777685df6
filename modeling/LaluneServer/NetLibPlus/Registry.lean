import LaluneServer.Lib.InverseIndex
import LaluneServer.Lib.Transition

/- NetLibPlus: the servers that a process knows, by id and by type, and the clients
   that connect to them. -/
namespace LaluneServer.NetLibPlus

open Std (TreeMap TreeSet)

structure ServerInfo where
  ip : BitVec 32
  port : Int
  serverType : Int
  serverId : Int
  deriving DecidableEq, Repr

structure ClientAddress where
  ip : BitVec 32
  port : Int
  deriving DecidableEq, Repr

structure Registry where
  clientsShutdown : Bool := false
  clients : TreeMap Int ClientAddress := ∅
  serverinfos : TreeMap Int ServerInfo := ∅
  serveridGroupbyType : TreeMap Int (TreeSet Int) := ∅

namespace Registry

variable (delegate : Int → Bool) (registry : Registry)

/-- A client is started when a delegate is set for the type of the server. -/
def tryStartAClient (info : ServerInfo) : Registry :=
  if delegate info.serverType then
    { registry with clients := registry.clients.insert info.serverId ⟨info.ip, info.port⟩ }
  else registry

/-- `operator[]` makes an empty group. -/
def changeGroup (serverType : Int) (change : TreeSet Int → TreeSet Int) : Registry :=
  { registry with
    serveridGroupbyType := registry.serveridGroupbyType.insert serverType
      (change (registry.serveridGroupbyType[serverType]?.getD ∅)) }

def putInfo (info : ServerInfo) : Registry :=
  tryStartAClient delegate
    { registry with serverinfos := registry.serverinfos.insert info.serverId info } info

def updateInfo (serverId : Int) (ip : BitVec 32) (port serverType : Int) : Registry :=
  match registry.serverinfos[serverId]? with
  | some info =>
    if info.ip ≠ ip ∨ info.port ≠ port ∨ info.serverType ≠ serverType then
      registry.putInfo delegate ⟨ip, port, serverType, serverId⟩
    else registry
  | none => registry.putInfo delegate ⟨ip, port, serverType, serverId⟩

def updateServerInfo (serverId : Int) (ip : BitVec 32) (port serverType : Int) : Registry :=
  if registry.clientsShutdown then registry
  else
    (registry.updateInfo delegate serverId ip port serverType).changeGroup serverType
      (fun group => group.insert serverId)

/-- A server whose details do not match is not removed. -/
def removeServerInfo (serverId : Int) (ip : BitVec 32) (port serverType : Int) : Registry :=
  if registry.clientsShutdown then registry
  else
    match registry.serverinfos[serverId]? with
    | some info =>
      if info.ip ≠ ip ∨ info.port ≠ port ∨ info.serverType ≠ serverType then registry
      else
        { registry.changeGroup serverType (fun group => group.erase serverId) with
          clients := registry.clients.erase serverId
          serverinfos := registry.serverinfos.erase serverId }
    | none => registry

/-- What a query returns, and the ids it reports as UNEXPECTED. -/
structure Found where
  infos : TreeMap Int ServerInfo := ∅
  unexpected : List Int := []

def collectInfo (found : Found) (serverId : Int) : Found :=
  match registry.serverinfos[serverId]? with
  | none => { found with unexpected := found.unexpected ++ [serverId] }
  | some info => { found with infos := found.infos.insertIfNew serverId info }

def group (serverType : Int) : List Int :=
  match registry.serveridGroupbyType[serverType]? with
  | none => []
  | some ids => ids.toList

def getClientsInfo (serverType : Int) : Found :=
  if registry.clientsShutdown then {}
  else (registry.group serverType).foldl registry.collectInfo {}

def getClients (serverType : Int) : List Int × List Int :=
  if registry.clientsShutdown then ([], [])
  else
    ((registry.group serverType).filter (fun id => id ∈ registry.clients),
      (registry.group serverType).filter (fun id => id ∉ registry.clients))

inductive Event
  | updateServerInfo (serverId : Int) (ip : BitVec 32) (port serverType : Int)
  | removeServerInfo (serverId : Int) (ip : BitVec 32) (port serverType : Int)
  deriving DecidableEq, Repr

def step : Event → Option Registry
  | .updateServerInfo serverId ip port serverType =>
    some (registry.updateServerInfo delegate serverId ip port serverType)
  | .removeServerInfo serverId ip port serverType =>
    some (registry.removeServerInfo serverId ip port serverType)

end Registry

end LaluneServer.NetLibPlus
