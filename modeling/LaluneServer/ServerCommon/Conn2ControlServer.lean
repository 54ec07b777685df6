import LaluneServer.Control.ControlServer
import LaluneServer.NetLibPlus.Registry

/- Conn2ControlServerDelegate: what a server does with the address messages of the control
   server. The delegate of the library, configurations and commands are not modelled. -/
namespace LaluneServer.ServerCommon
open Control NetLibPlus

def controlServerId : Int := 0

/-- `__my_server_id`, read as the unsigned number it is compared as, and NetLibPlus. -/
structure Node where
  myServerId : BitVec 32 := -1
  registry : Registry := {}

namespace Node
variable (delegate : Int → Bool) (node : Node)

def initialized (controlServer : ServerInfo) : Node :=
  { registry := ({} : Registry).updateServerInfo delegate controlServerId controlServer.ip
      controlServer.port controlServer.serverType }

/-- An address of ADDR_INFO_REFRESH and ADDR_INFO_ADD; the server's own is skipped. -/
def updateAddress (addr : AddressInfo) : Node :=
  if addr.serverId ≠ node.myServerId then
    { node with
      registry := node.registry.updateServerInfo delegate addr.serverId.toInt addr.ip
        addr.port.toInt addr.serverType.toInt }
  else node

def removeAddress (addr : AddressInfo) : Node :=
  { node with
    registry := node.registry.removeServerInfo addr.serverId.toInt addr.ip addr.port.toInt
      addr.serverType.toInt }

def recvFinishHandler (node : Node) : Message → Node
  | .helloResult serverId => { node with myServerId := serverId }
  | .addrInfoRefresh list => list.foldl (updateAddress delegate) node
  | .addrInfoAdd addr => node.updateAddress delegate addr
  | .addrInfoRemove addr => node.removeAddress addr
  | .addrInfoRestart _ => node

end Node

end LaluneServer.ServerCommon
