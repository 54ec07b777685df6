import LaluneServer.Control.ConfigServer
import LaluneServer.Control.Convergence

/- The config files that the servers hold. A server is sent all files of its type when it
   initializes, before it says Hello; from the Hello on it is sent what is written. -/
namespace LaluneServer.Control

open Std (TreeMap TreeSet)
open Transition InverseIndex TaggedFields NetLibPlus ServerCommon

inductive DelegateCall
  | onConfigRefresh (fileName content : Bytes)
  | onConfigInitialized
  | onReceiveCmd (cmdType : BitVec 32) (data : Bytes)
  | onReceiveOtherDataFromControlServer (notice : Notice)
  deriving DecidableEq, Repr

structure ConfigNode where
  isConfigInitialized : Bool := false
  calls : List DelegateCall := []

def ConfigNode.recvFinishHandler (node : ConfigNode) : Notice → ConfigNode
  | .refreshConfig rc =>
    let calls := node.calls ++ rc.file.map fun file => .onConfigRefresh file.fileName file.content
    if node.isConfigInitialized then { node with calls := calls }
    else ⟨true, calls ++ [.onConfigInitialized]⟩
  | .cmd2Server cmd => { node with calls := node.calls ++ [.onReceiveCmd cmd.cmdType cmd.data] }
  | .refreshConfigResponse => { node with
      calls := node.calls ++ [.onReceiveOtherDataFromControlServer .refreshConfigResponse] }
  | .fetchConfigResponse file => { node with
      calls := node.calls ++ [.onReceiveOtherDataFromControlServer (.fetchConfigResponse file)] }
  | .commandResult result => { node with
      calls := node.calls ++ [.onReceiveOtherDataFromControlServer (.commandResult result)] }
  | .helloResult _ | .addrInfoRefresh _ | .addrInfoAdd _ | .addrInfoRemove _
  | .addrInfoRestart _ => node

def DelegateCall.content (name : Bytes) : DelegateCall → Option Bytes
  | .onConfigRefresh fileName content => if fileName = name then some content else none
  | _ => none

def ConfigNode.held (node : ConfigNode) (name : Bytes) : Option Bytes :=
  (node.calls.filterMap (DelegateCall.content name)).getLast?

def noticeFiles : Notice → List ConfigFile
  | .refreshConfig rc => rc.file
  | _ => []

def lastContent (files : List ConfigFile) (name : Bytes) : Option Bytes :=
  (files.filterMap fun file => if file.fileName = name then some file.content else none).getLast?

/-- The directory with the configs, the notices on their way in each session, and what each
    server was given. `missed` is a ghost: the file has changed, or was lost on its way, since
    it was last sent to the process. -/
structure ConfigDirectory where
  directory : Directory
  configs : Configs := ∅
  down : Session → List Notice := fun _ => []
  nodes : IPPort → ConfigNode := fun _ => {}
  missed : IPPort → Bytes → Bool

inductive ConfigEvent
  | directory (event : DirectoryEvent)
  | recv (session : Session) (disk : Disk) (data : Bytes)
  | receive (server : IPPort)
  deriving DecidableEq, Repr

namespace ConfigDirectory
variable (delegate : Int → Bool) (controlServer : ServerInfo) (typeOf : IPPort → BitVec 32)
  (wire : WireFormat) (types : MessageTypes) (w : ConfigDirectory)

def initialized (serverTypeMax : Nat) (disk : Disk) : ConfigDirectory :=
  let configs := Configs.initializeConfigs ∅ disk
  { directory := Directory.initialized delegate controlServer serverTypeMax
    configs := configs
    missed := fun server name => (configs.readConfig (typeOf server) name).isSome }

def noticesTo (session : Session) (answers : List Answer) : List Notice :=
  (answers.filter (fun answer => answer.session = session)).map Answer.notice

def pending (server : IPPort) : List Notice :=
  match w.directory.connections server with
  | none => []
  | some session => w.down session

def told (answers : List Answer) (server : IPPort) : List Notice :=
  match w.directory.connections server with
  | none => []
  | some session => noticesTo session answers

def toldFiles (answers : List Answer) (server : IPPort) : List ConfigFile :=
  (w.told answers server).flatMap noticeFiles

def missedAfter (reaction : Configs × List Answer) (server : IPPort) (name : Bytes) : Bool :=
  (lastContent (w.toldFiles reaction.2 server) name).isNone &&
    (w.missed server name || decide (reaction.1.readConfig (typeOf server) name ≠
      w.configs.readConfig (typeOf server) name))

def missedOver (event : DirectoryEvent) (server : IPPort) (name : Bytes) : Bool :=
  match event with
  | .restart other => if server = other then (w.configs.readConfig (typeOf server) name).isSome
    else w.missed server name
  | .drop other => w.missed server name ||
    decide (server = other ∧ (lastContent ((w.pending server).flatMap noticeFiles) name).isSome)
  | _ => w.missed server name

def nodesOver (event : DirectoryEvent) (server : IPPort) : ConfigNode :=
  match event with
  | .restart other => if server = other then {} else w.nodes server
  | _ => w.nodes server

def followed (event : DirectoryEvent) (directory : Directory) : ConfigDirectory :=
  { w with
    directory := directory
    nodes := w.nodesOver event
    missed := w.missedOver typeOf event }

def receiveConfig (server : IPPort) : Option ConfigDirectory :=
  (w.directory.connections server).bind fun session =>
    match w.down session with
    | [] => none
    | notice :: rest => some { w with
        down := fun s => if s = session then rest else w.down s
        nodes := fun k =>
          if k = server then (w.nodes k).recvFinishHandler notice else w.nodes k }

def reaction (session : Session) (disk : Disk) (data : Bytes) : Configs × List Answer :=
  w.directory.control.recvFinishHandler w.configs session wire types disk
    (w.directory.links session).owner.1 data

def reacted (reaction : Configs × List Answer) : ConfigDirectory :=
  { w with
    configs := reaction.1
    down := fun s => w.down s ++ noticesTo s reaction.2
    missed := w.missedAfter typeOf reaction }

def step : ConfigEvent → Option ConfigDirectory
  | .directory event =>
    (w.directory.step delegate controlServer event).map (w.followed typeOf event)
  | .recv session disk data =>
    if session < w.directory.sessions then
      some (w.reacted typeOf (w.reaction wire types session disk data))
    else none
  | .receive server => w.receiveConfig server

def namesType (serverType : BitVec 32) : Request → Prop
  | .toInitialize init => init.serverType = serverType
  | _ => True

instance (serverType : BitVec 32) (request : Request) :
    Decidable (namesType serverType request) := by
  cases request <;> simp only [namesType] <;> infer_instance

def typed (w : ConfigDirectory) : ConfigEvent → Prop
  | .directory (.sayHello server serverType) => serverType = typeOf server
  | .recv session _ data => ∀ request ∈ recvRequest wire types data,
    namesType (typeOf (w.directory.links session).owner) request
  | _ => True

instance (w : ConfigDirectory) : (e : ConfigEvent) → Decidable (typed typeOf wire types w e)
  | .directory event => by cases event <;> simp only [typed] <;> infer_instance
  | .recv .. => inferInstanceAs (Decidable (∀ _ ∈ _, _))
  | .receive _ => isTrue trivial

def settled (server : IPPort) : ConfigNode :=
  (w.pending server).foldl ConfigNode.recvFinishHandler (w.nodes server)

def Covered (server : IPPort) : Prop :=
  ∃ (group : ServerGroup) (session : Session),
    w.directory.control.serverGroups[(typeOf server).toInt]? = some group ∧ server ∈ group ∧
      w.directory.control.server2session[server]? = some session ∧
        w.directory.connections server = some session

/-- What a server was not cut off from arrives, and the delegate is initialized once. -/
structure Delivered : Prop where
  arrives : ∀ server name, w.missed server name = false →
    (w.settled server).held name = w.configs.readConfig (typeOf server) name
  arrived : ∀ server name, w.pending server = [] → w.missed server name = false →
    (w.nodes server).held name = w.configs.readConfig (typeOf server) name
  once : ∀ server, (w.nodes server).calls.count .onConfigInitialized ≤ 1

def losesConnection (server : IPPort) : ConfigEvent → Prop
  | .directory (.drop other) => other = server
  | .directory (.restart other) => other = server
  | _ => False

/-- A server of the group misses nothing but the removal of a file, and the answer to an
    Initialize makes up for what was missed. -/
structure KeepsUp (e : ConfigEvent) (v : ConfigDirectory) : Prop where
  covered : ∀ server, w.Covered typeOf server → ¬ losesConnection server e →
    ∀ name, v.missed server name = true →
      w.missed server name = true ∨ v.configs.readConfig (typeOf server) name = none
  answered : ∀ session disk data init, e = .recv session disk data →
    recvRequest wire types data = some (.toInitialize init) →
    ∀ server, w.directory.connections server = some session →
      ∀ name, v.missed server name = true →
        w.missed server name = true ∧ v.configs.readConfig (typeOf server) name = none

end ConfigDirectory

end LaluneServer.Control
