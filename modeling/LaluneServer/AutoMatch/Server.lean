import LaluneServer.Lib.InverseIndex
import LaluneServer.Lib.Transition
import Mathlib.Data.List.Sort

/- AutoMatchServer: players wait by map name, a pair of players becomes a game on a
   battle server, and battle servers register, send heart beats and answer. -/
namespace LaluneServer.AutoMatch

open Std (TreeMap)

abbrev Session := Nat

structure IpPort where
  ip : String
  port : Int
  deriving DecidableEq, Repr

structure PvPServerInfo where
  id : IpPort
  session : Session
  region : Int
  priority : Int
  deriving DecidableEq, Repr

abbrev ServerList := List PvPServerInfo

abbrev MatchKey := Int × String

instance : Ord MatchKey := lexOrd

abbrev WaitingUser := Session × String

structure UnitData where
  unitName : String
  unitLevel : Nat
  deriving DecidableEq, Repr

structure ForceData where
  userId : String
  forceId : Nat
  units : List UnitData
  deriving DecidableEq, Repr

structure GameInitData where
  forces : List ForceData := []
  deriving DecidableEq, Repr

structure GameInfo where
  server : IpPort
  gameInitData : GameInitData
  sessions : Session × Session
  deriving DecidableEq, Repr

structure MatchRequest where
  mapName : String
  userId : String
  deriving DecidableEq, Repr

inductive MatchResponseValue
  | success
  | illegalRequest
  | noServer
  | createFail
  deriving DecidableEq, Repr

structure MatchResponse where
  retValue : MatchResponseValue
  retInfo : String := ""
  gameUuid : String := ""
  gameServerIp : String := ""
  gameServerPort : Int := 0
  gameInitData : GameInitData := {}
  deriving DecidableEq, Repr

structure CreateGame where
  gameId : String
  gameInitData : GameInitData
  deriving DecidableEq, Repr

structure CreateGameResponse where
  gameId : String
  retValue : Int
  deriving DecidableEq, Repr

structure PvPServerRegister where
  ip : String
  port : Int
  region : Int
  priority : Int
  deriving DecidableEq, Repr

structure PvPServerRegisterResponse where
  retValue : Int
  deriving DecidableEq, Repr

structure PvPServerHeartBeat where
  ip : String
  port : Int
  deriving DecidableEq, Repr

inductive Message
  | matchResponse (response : MatchResponse)
  | createGame (request : CreateGame)
  | registerResponse (response : PvPServerRegisterResponse)
  deriving DecidableEq, Repr

structure Reply where
  session : Session
  message : Message
  deriving DecidableEq, Repr

structure AutoMatchServer where
  serversByRegion : TreeMap Int ServerList := ∅
  waitingUsers : TreeMap MatchKey WaitingUser := ∅
  session2matchkey : TreeMap Session MatchKey := ∅
  games : TreeMap String GameInfo := ∅

def byPriority (a b : PvPServerInfo) : Prop := a.priority ≤ b.priority

/-- `std::sort` by priority; the order of equal priorities is left open. -/
structure PrioritySort where
  sort : ServerList → ServerList
  perm : ∀ list, (sort list).Perm list
  sorted : ∀ list, (sort list).Pairwise byPriority

instance : DecidableRel byPriority := fun a b => inferInstanceAs (Decidable (a.priority ≤ b.priority))

instance : Std.Total byPriority := ⟨fun a b => Int.le_total a.priority b.priority⟩

instance : IsTrans PvPServerInfo byPriority := ⟨fun _ _ _ => Int.le_trans⟩

def insertionOrder : PrioritySort :=
  { sort := List.insertionSort byPriority
    perm := List.perm_insertionSort byPriority
    sorted := List.pairwise_insertionSort byPriority }

def allHeros : List String :=
  ["saber", "panda", "vanhelsing", "dracula", "zeus", "enchantress"]

def heroPickCount : Nat := 3

abbrev Rolls := Nat × Nat × Nat

def pickHeros (rolls : Rolls) : List String :=
  let choices := allHeros.length - heroPickCount + 1
  let r := [rolls.1 % choices, rolls.2.1 % choices, rolls.2.2 % choices].insertionSort (· ≤ ·)
  r.zipIdx.map (fun pick => allHeros.getD (pick.1 + pick.2) "")

def addForce (initData : GameInitData) (userId : String) (rolls : Rolls) : GameInitData :=
  { initData with
    forces := initData.forces ++
      [{ userId := userId
         forceId := initData.forces.length + 1
         units := (pickHeros rolls).map (fun name => ⟨name, 1⟩) }] }

structure Outcome where
  ams : AutoMatchServer
  replies : List Reply := []
  created : List (String × GameInfo) := []

def replyBoth (sessions : Session × Session) (response : MatchResponse) : List Reply :=
  [⟨sessions.1, .matchResponse response⟩, ⟨sessions.2, .matchResponse response⟩]

structure Selection where
  games : TreeMap String GameInfo
  found : Bool := false
  replies : List Reply := []
  created : List (String × GameInfo) := []

def newGame (request : CreateGame) (sessions : Session × Session) (info : PvPServerInfo) :
    GameInfo :=
  ⟨info.id, request.gameInitData, sessions⟩

def askServers (isConnected : Session → Bool) (request : CreateGame)
    (sessions : Session × Session) : ServerList → TreeMap String GameInfo → Selection
  | [], games => { games := games }
  | info :: rest, games =>
    if isConnected info.session then
      let game := newGame request sessions info
      let later := askServers isConnected request sessions rest
        (games.insertIfNew request.gameId game)
      { games := later.games
        found := true
        replies := ⟨info.session, .createGame request⟩ :: later.replies
        created := (request.gameId, game) :: later.created }
    else askServers isConnected request sessions rest games

namespace AutoMatchServer

variable (ams : AutoMatchServer)

def serverList (region : Int) : ServerList := ams.serversByRegion[region]?.getD []

def startWaiting (key : MatchKey) (user : WaitingUser) : AutoMatchServer :=
  { ams with
    waitingUsers := ams.waitingUsers.insertIfNew key user
    session2matchkey := ams.session2matchkey.insertIfNew user.1 key }

def offerGame (isConnected : Session → Bool) (gameId : String) (rolls : Rolls × Rolls)
    (region : Int) (opponent user : WaitingUser) : Outcome :=
  let initData := addForce (addForce {} opponent.2 rolls.1) user.2 rolls.2
  let sessions := (opponent.1, user.1)
  let selection := askServers isConnected ⟨gameId, initData⟩ sessions (ams.serverList region)
    ams.games
  { ams := { ams with games := selection.games }
    replies := selection.replies ++
      if selection.found then []
      else replyBoth sessions { retValue := .noServer, retInfo := "没有找到可用的服务器" }
    created := selection.created }

def pairUsers (isConnected : Session → Bool) (gameId : String) (rolls : Rolls × Rolls)
    (region : Int) (opponent user : WaitingUser) : Outcome :=
  if opponent.2 = user.2 then
    { ams := ams, replies := replyBoth (opponent.1, user.1) { retValue := .illegalRequest } }
  else ams.offerGame isConnected gameId rolls region opponent user

def leaveQueue (key : MatchKey) (opponent : WaitingUser) : AutoMatchServer :=
  { ams with
    waitingUsers := ams.waitingUsers.erase key
    session2matchkey := ams.session2matchkey.erase opponent.1 }

def matchKey (request : MatchRequest) : MatchKey := (0, request.mapName)

/-- `gameId` is the clock in microseconds. -/
def matchRequest (isConnected : Session → Bool) (gameId : String) (rolls : Rolls × Rolls)
    (session : Session) (request : MatchRequest) : Outcome :=
  let key := matchKey request
  let user := (session, request.userId)
  match ams.waitingUsers[key]? with
  | none => { ams := ams.startWaiting key user }
  | some opponent =>
    let outcome := ams.pairUsers isConnected gameId rolls key.1 opponent user
    { outcome with ams := outcome.ams.leaveQueue key opponent }

def matchCancel (session : Session) : AutoMatchServer :=
  match ams.session2matchkey[session]? with
  | none => ams
  | some key => { ams with waitingUsers := ams.waitingUsers.erase key }

def createGameResult (game : GameInfo) (response : CreateGameResponse) : MatchResponse :=
  if response.retValue = 0 then
    { retValue := .success
      gameUuid := response.gameId
      gameServerIp := game.server.ip
      gameServerPort := game.server.port
      gameInitData := game.gameInitData }
  else
    { retValue := .createFail
      retInfo := "创建错误。错误代码：" ++ toString response.retValue }

/-- The session of the response is not looked at. -/
def createGameResponseGot (response : CreateGameResponse) : Outcome :=
  match ams.games[response.gameId]? with
  | none => { ams := ams }
  | some game =>
    { ams := { ams with games := ams.games.erase response.gameId }
      replies := replyBoth game.sessions (createGameResult game response) }

/-- A duplicate is replaced, a new server goes to the end. -/
def registerInfo (info : PvPServerInfo) : ServerList → ServerList
  | [] => [info]
  | other :: rest => if other.id = info.id then info :: rest else other :: registerInfo info rest

def serverRegister (order : PrioritySort) (session : Session) (reg : PvPServerRegister) :
    Outcome :=
  let info : PvPServerInfo :=
    { id := ⟨reg.ip, reg.port⟩, session := session, region := reg.region
      priority := reg.priority }
  let list := order.sort (registerInfo info (ams.serverList info.region))
  { ams := { ams with serversByRegion := ams.serversByRegion.insert info.region list }
    replies := [⟨session, .registerResponse ⟨0⟩⟩] }

def serverTimeout (region : Int) (id : IpPort) : AutoMatchServer :=
  match ams.serversByRegion[region]? with
  | none => ams
  | some list =>
    { ams with
      serversByRegion := ams.serversByRegion.insert region (list.eraseP (fun info => info.id = id)) }

def updateSession (id : IpPort) (session : Session) : ServerList → Option ServerList
  | [] => none
  | info :: rest =>
    if info.id = id then some ({ info with session := session } :: rest)
    else (updateSession id session rest).map (info :: ·)

/-- The regions are searched in the order of the map. -/
def findServer (id : IpPort) (session : Session) : Option (Int × ServerList) :=
  ams.serversByRegion.toList.findSome? (fun entry =>
    (updateSession id session entry.2).map (fun list => (entry.1, list)))

def serverHeartBeat (session : Session) (beat : PvPServerHeartBeat) : AutoMatchServer :=
  match ams.findServer ⟨beat.ip, beat.port⟩ session with
  | none => ams
  | some entry => { ams with serversByRegion := ams.serversByRegion.insert entry.1 entry.2 }

end AutoMatchServer

structure World where
  ams : AutoMatchServer := {}
  disconnected : List Session := []
  cancelled : List Session := []
  replies : List Reply := []
  created : List (String × GameInfo) := []
  answers : List (IpPort × CreateGameResponse) := []

inductive Event
  | matchRequest (session : Session) (request : MatchRequest) (gameId : String)
      (rolls : Rolls × Rolls)
  | userDisconnected (session : Session)
  | createGameResponse (server : IpPort) (response : CreateGameResponse)
  | serverRegister (session : Session) (reg : PvPServerRegister)
  | serverHeartBeat (session : Session) (beat : PvPServerHeartBeat)
  | serverDisconnected (session : Session)
  | serverTimeout (region : Int) (id : IpPort)
  deriving DecidableEq, Repr

namespace World

variable (order : PrioritySort) (w : World)

def isConnected (session : Session) : Bool := session ∉ w.disconnected

def record (outcome : Outcome) : World :=
  { w with
    ams := outcome.ams
    replies := w.replies ++ outcome.replies
    created := w.created ++ outcome.created }

/-- `PvpServer::handleCreateGameRequest` answers with the game id of its request. -/
def asked (server : IpPort) (gameId : String) : Prop :=
  ∃ entry ∈ w.created, entry.1 = gameId ∧ entry.2.server = server

instance (server : IpPort) (gameId : String) : Decidable (w.asked server gameId) :=
  inferInstanceAs (Decidable (∃ _ ∈ _, _))

/-- A user session disconnects once and requests nothing afterwards. -/
def step : Event → Option World
  | .matchRequest session request gameId rolls =>
    if session ∉ w.cancelled then
      some (w.record (w.ams.matchRequest w.isConnected gameId rolls session request))
    else none
  | .userDisconnected session =>
    if session ∉ w.cancelled then
      some { w with
        ams := w.ams.matchCancel session
        disconnected := session :: w.disconnected
        cancelled := session :: w.cancelled }
    else none
  | .createGameResponse server response =>
    if w.asked server response.gameId then
      some { w.record (w.ams.createGameResponseGot response) with
        answers := (server, response) :: w.answers }
    else none
  | .serverRegister session reg => some (w.record (w.ams.serverRegister order session reg))
  | .serverHeartBeat session beat => some { w with ams := w.ams.serverHeartBeat session beat }
  | .serverDisconnected session => some { w with disconnected := session :: w.disconnected }
  | .serverTimeout region id => some { w with ams := w.ams.serverTimeout region id }

end World

end LaluneServer.AutoMatch
