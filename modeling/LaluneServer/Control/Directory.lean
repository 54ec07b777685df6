import LaluneServer.ServerCommon.Conn2ControlServer

/- The control server and the servers that keep a copy of its directory. Messages arrive
   in order on each session. A session that a server lost stays in server2session until
   the server says Hello again: the DisconnectedHandler of ControlServerSessionDelegate has
   one parameter and does not override the one that NetLib calls. -/
namespace LaluneServer.Control
open NetLibPlus ServerCommon

/-- A session: the server at its other end, the Hellos and the messages on their way, and
    whether a Hello of it was handled after the startup phase, which is a ghost. -/
structure Link where
  owner : IPPort := (0, 0)
  up : List Hello := []
  down : List Message := []
  greeted : Bool := false

/-- A server is its address. Its process and its session may change. -/
structure Directory where
  control : ControlServer
  sessions : Nat := 0
  links : Session → Link := fun _ => {}
  connections : IPPort → Option Session := fun _ => none
  nodes : IPPort → Node

inductive DirectoryEvent
  | connect (server : IPPort)
  | drop (server : IPPort)
  | restart (server : IPPort)
  | sayHello (server : IPPort) (serverType : BitVec 32)
  | handleHello (session : Session)
  | serverTimeout (ipPort : IPPort)
  | startupTimer
  | receive (server : IPPort)
  deriving DecidableEq, Repr

namespace Directory
variable (delegate : Int → Bool) (controlServer : ServerInfo) (w : Directory)

def initialized (serverTypeMax : Nat) : Directory :=
  { control := ControlServer.initialized serverTypeMax
    nodes := fun _ => Node.initialized delegate controlServer }

def setLink (session : Session) (link : Link) : Directory :=
  { w with links := fun s => if s = session then link else w.links s }

def setConnection (server : IPPort) (session : Option Session) : Directory :=
  { w with connections := fun k => if k = server then session else w.connections k }

def setNode (server : IPPort) (node : Node) : Directory :=
  { w with nodes := fun k => if k = server then node else w.nodes k }

def messagesTo (session : Session) (replies : List Reply) : List Message :=
  (replies.filter (fun reply => reply.session = session)).map Reply.message

def reacted (reaction : ControlServer × List Reply) : Directory :=
  { w with
    control := reaction.1
    links := fun s => { w.links s with down := (w.links s).down ++ messagesTo s reaction.2 } }

/-- SayHello2ControlServer; its parameter is ignored. -/
def helloOf (server : IPPort) (serverType : BitVec 32) : Hello :=
  { myListeningPort := server.2.toBitVec, serverType := serverType, isServerStart := 1 }

def connect (server : IPPort) : Option Directory :=
  if (w.connections server).isSome then none
  else some ({ w.setLink w.sessions { owner := server } with
    sessions := w.sessions + 1 }.setConnection server (some w.sessions))

def sayHello (server : IPPort) (serverType : BitVec 32) : Option Directory :=
  (w.connections server).map fun s =>
    w.setLink s { w.links s with up := (w.links s).up ++ [helloOf server serverType] }

/-- A Hello may still arrive on a session that its server has lost. -/
def handleHello (session : Session) : Option Directory :=
  match (w.links session).up with
  | [] => none
  | hello :: rest =>
    let link := w.links session
    some ((w.setLink session
      { link with up := rest, greeted := link.greeted || ! w.control.duringStartup }).reacted
        (w.control.sayHello session link.owner.1 hello))

def receive (server : IPPort) : Option Directory :=
  (w.connections server).bind fun s =>
    match (w.links s).down with
    | [] => none
    | message :: rest =>
      some ((w.setLink s { w.links s with down := rest }).setNode server
        ((w.nodes server).recvFinishHandler delegate message))

def step : DirectoryEvent → Option Directory
  | .connect server => w.connect server
  | .drop server => some (w.setConnection server none)
  | .restart server => some ((w.setConnection server none).setNode server
      (Node.initialized delegate controlServer))
  | .sayHello server serverType => w.sayHello server serverType
  | .handleHello session => w.handleHello session
  | .serverTimeout ipPort => some (w.reacted (w.control.serverTimeout ipPort))
  | .startupTimer => some (w.reacted w.control.startupTimer)
  | .receive server => w.receive delegate server

end Directory

end LaluneServer.Control
