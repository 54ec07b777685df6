import LaluneServer.NetLib.ClientLedger

/- NetLibPlus_Client_Imp, the client of a server whose address may change. Every address
   gets a NetLib client of its own, and those before it go on until nothing refers to
   them. Its SendFailedHandler is left out: NetLib_Client_Delegate has no function of that
   name, so no NetLib client calls it. Not modelled: the delegate, the log, the server id. -/
namespace LaluneServer.NetLibPlus
open NetLib

/-- A NetLib client, and for each packet that it accepted the packet of the NetLibPlus
    client in it: pHint points to that packet's copy flag and hint. A keep-alive has none. -/
structure InnerClient (Address : Type*) where
  core : NetLib.Client Address := {}
  sent : List (Option NetlibPacket) := []

namespace InnerClient
variable {Address : Type*} (net : Addresses Address) (maxPacketSize : Nat)
  (inner : InnerClient Address)

def sendAsync (packet : NetlibPacket) : InnerClient Address :=
  { core := inner.core.sendAsync packet.data packet.pHint
    sent := inner.sent ++ [some packet] }

def handle (event : ClientEvent) : Option (InnerClient Address) :=
  (inner.core.step net maxPacketSize event).map fun core =>
    { core := core
      sent := if event = .runKeepAlive then inner.sent ++ [none] else inner.sent }

def content (packet : NetlibPacket) : Option NetlibPacket := inner.sent[packet.stamp]?.join

def carried : List NetlibPacket :=
  (sessionPackets inner.core.connectedSession ++ inner.core.failedDataQueue ++
    inner.core.sendFinishes).filterMap inner.content

def finished : List NetlibPacket := inner.core.finished.filterMap inner.content

def released : List NetlibPacket := inner.core.released.filterMap inner.content

end InnerClient

/-- The fields of the source, then the NetLib clients that it no longer holds, then two
    ghosts: the packets accepted and those that the destructor released. -/
structure PlusClient (Address : Type*) where
  remoteServerIp : BitVec 32 := 0
  remoteServerPort : Nat := 0
  client : Option (InnerClient Address) := none
  failedDataQueue : List NetlibPacket := []
  retired : List (InnerClient Address) := []
  destroyed : Bool := false
  accepted : List NetlibPacket := []
  released : List NetlibPacket := []

namespace PlusClient
variable {Address : Type*} (net : Addresses Address) (maxPacketSize : Nat) (w : PlusClient Address)

def addFailedData (packet : NetlibPacket) : PlusClient Address :=
  { w with failedDataQueue := w.failedDataQueue ++ [packet] }

def sendPacket (packet : NetlibPacket) : PlusClient Address :=
  match w.client with
  | some inner => { w with client := some (inner.sendAsync packet) }
  | none => w.addFailedData packet

def accept (data : Bytes) (copy : Bool) (pHint : BitVec 64) : PlusClient Address :=
  let packet : NetlibPacket :=
    { data := data, copy := copy, pHint := pHint, stamp := w.accepted.length }
  { w with accepted := w.accepted ++ [packet] }.sendPacket packet

def sendAsync (data : Bytes) (pHint : BitVec 64) : PlusClient Address := w.accept data false pHint

def sendCopyAsync (data : Bytes) : PlusClient Address :=
  w.accept (data.take (readUint32 data)) true 0

/-- The loop of ResendFailedData. Without a client it puts back what it takes and never
    ends, which is `none`. -/
def resendFailedData : List NetlibPacket → PlusClient Address → Option (PlusClient Address)
  | [], w => some w
  | packet :: rest, w =>
    match w.client with
    | none => none
    | some _ => resendFailedData rest ({ w with failedDataQueue := rest }.sendPacket packet)

def connectedHandlers (reports : Bool) : Option (PlusClient Address) :=
  if reports then resendFailedData w.failedDataQueue w else some w

/-- ReleaseClient; ResetClient starts with it too. -/
def releaseClient : PlusClient Address :=
  match w.client with
  | some inner =>
    { w with
      client := none
      retired := w.retired ++ [{ inner with core := inner.core.disconnect }] }
  | none => w

def newClient (ip : BitVec 32) (tcpPort : BitVec 16) (flags : BitVec 64) : InnerClient Address :=
  { core := NetLib.Client.startConnect net {} (.ipNumber ip) tcpPort
      (flags ||| clientEnableReconnectOnFirstConnect ||| clientFlagKeepAlive) }

def resetClient (ip : BitVec 32) (tcpPort : BitVec 16) (flags : BitVec 64) : PlusClient Address :=
  { w.releaseClient with
    client := some (newClient net ip tcpPort flags)
    remoteServerIp := ip
    remoteServerPort := tcpPort.toNat }

def unreferenced : Prop := w.client.isNone ∧ ∀ inner ∈ w.retired, inner.core.destroyed = true

instance : Decidable w.unreferenced := inferInstanceAs (Decidable (_ ∧ ∀ _ ∈ _, _))

def destroy : PlusClient Address :=
  { w with failedDataQueue := [], released := w.failedDataQueue, destroyed := true }

end PlusClient

inductive PlusEvent where
  | sendAsync (data : Bytes) (pHint : BitVec 64)
  | sendCopyAsync (data : Bytes)
  | resetClient (ip : BitVec 32) (tcpPort : BitVec 16) (flags : BitVec 64)
  | releaseClient
  | clientHandler (event : ClientEvent)
  | retiredHandler (index : Nat) (event : ClientEvent)
  | destroy
  deriving DecidableEq, Repr

namespace PlusClient
variable {Address : Type*} (net : Addresses Address) (maxPacketSize : Nat) (w : PlusClient Address)

/-- Public calls and handlers of the NetLib clients come in any order; what the delegate calls
    in ConnectedHandler counts as called right before it. Only a client that is not held can
    be destroyed. -/
def step (event : PlusEvent) : Option (PlusClient Address) :=
  if w.destroyed then none
  else
    match event with
    | .sendAsync data pHint => some (w.sendAsync data pHint)
    | .sendCopyAsync data => some (w.sendCopyAsync data)
    | .resetClient ip tcpPort flags => some (w.resetClient net ip tcpPort flags)
    | .releaseClient => some w.releaseClient
    | .clientHandler event => w.client.bind fun inner =>
        if event.isHandler then
          (inner.handle net maxPacketSize event).bind fun next =>
            { w with client := some next }.connectedHandlers (inner.core.reportsConnection event)
        else none
    | .retiredHandler index event => w.retired[index]?.bind fun inner =>
        if event.isHandler ∨ event = .destroy then
          (inner.handle net maxPacketSize event).bind fun next =>
            { w with retired := w.retired.set index next }.connectedHandlers
              (inner.core.reportsConnection event)
        else none
    | .destroy => if w.unreferenced then some w.destroy else none

def clients : List (InnerClient Address) := w.client.toList ++ w.retired

def finishedPackets : List NetlibPacket := w.clients.flatMap InnerClient.finished

def releasedPackets : List NetlibPacket :=
  w.released ++ w.clients.flatMap InnerClient.released

end PlusClient

end LaluneServer.NetLibPlus
