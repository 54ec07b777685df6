import LaluneServer.Combat.OneGame
import LaluneServer.Lib.Transition

/- CombatServer over TCP: the games by id, the game of each session and the game that
   is being filled. -/
namespace LaluneServer.Combat

open NetLib
open Std (TreeMap)

abbrev Uuid := BitVec 128

def nilUuid : Uuid := 0

/-- A shared_ptr that is null is `none`. -/
structure CombatServer where
  gameidToOnegame : TreeMap Uuid (Option OneGame) := ∅
  ptrToGameid : TreeMap Session Uuid := ∅
  nowGameId : Uuid := nilUuid

namespace CombatServer

/-- `ptr_to_gameid[sessionptr]`, which inserts the nil id for an unknown session. -/
def gameidOf (server : CombatServer) (session : Session) : Uuid × CombatServer :=
  match server.ptrToGameid[session]? with
  | some id => (id, server)
  | none =>
    (nilUuid, { server with ptrToGameid := server.ptrToGameid.insert session nilUuid })

/-- `gameid_to_onegame[id]`, which inserts a null pointer for an unknown id. -/
def onegameOf (server : CombatServer) (id : Uuid) : Option OneGame × CombatServer :=
  match server.gameidToOnegame[id]? with
  | some game => (game, server)
  | none => (none, { server with gameidToOnegame := server.gameidToOnegame.insert id none })

def putOnegame (server : CombatServer) (id : Uuid) (game : OneGame) : CombatServer :=
  { server with gameidToOnegame := server.gameidToOnegame.insert id (some game) }

def dropEmpty (server : CombatServer) (id : Uuid) (game : OneGame) : CombatServer :=
  if server.gameidToOnegame.size ≠ 0 ∧ game.clientConnect.size = 0 then
    { server with gameidToOnegame := server.gameidToOnegame.erase id }
  else server

/-- No result when a null pointer is dereferenced, as in the handlers below. -/
def disconnectedHandler (server : CombatServer) (session : Session) : Option CombatServer :=
  let found := server.gameidOf session
  let held := found.2.onegameOf found.1
  held.1.map (fun game =>
    let left := game.delConnect session
    let rest := (held.2.putOnegame found.1 left).dropEmpty found.1 left
    { rest with ptrToGameid := rest.ptrToGameid.erase session })

def newGame (server : CombatServer) (uuid : Uuid) (fresh : BitVec 64) : CombatServer :=
  { server.putOnegame uuid { startTime := fresh } with nowGameId := uuid }

def chooseGame (server : CombatServer) (uuid : Uuid) (fresh : BitVec 64) :
    Option CombatServer :=
  if server.gameidToOnegame.size = 0 then some (server.newGame uuid fresh)
  else
    let held := server.onegameOf server.nowGameId
    held.1.map (fun game =>
      if game.clientConnect.size = playerNum then held.2.newGame uuid fresh else held.2)

def connectToGame (codec : BattleCodec) (server : CombatServer) (session : Session)
    (data : Bytes) (uuid : Uuid) (fresh now : BitVec 64) :
    Option (CombatServer × List (Output Session)) :=
  (server.chooseGame uuid fresh).bind (fun chosen =>
    let held := chosen.onegameOf chosen.nowGameId
    held.1.map (fun game =>
      let joined := game.connectToGame codec session data now
      let kept := held.2.putOnegame held.2.nowGameId joined.1
      ({ kept with ptrToGameid := kept.ptrToGameid.insert session kept.nowGameId }, joined.2)))

def battleGameAction (codec : BattleCodec) (server : CombatServer) (session : Session)
    (data : Bytes) (now : BitVec 64) : Option (CombatServer × List (Output Session)) :=
  let found := server.gameidOf session
  if found.2.gameidToOnegame.contains found.1 then
    let held := found.2.onegameOf found.1
    held.1.map (fun game =>
      let acted := OneGame.battleGameAction codec game data now
      (held.2.putOnegame found.1 acted.1, acted.2))
  else some (found.2, [])

def recvFinishHandler (codec : BattleCodec) (server : CombatServer) (session : Session)
    (data : Bytes) (uuid : Uuid) (fresh now : BitVec 64) :
    Option (CombatServer × List (Output Session)) :=
  match codec.msgType data with
  | .connectToGame => server.connectToGame codec session data uuid fresh now
  | .gameAction => server.battleGameAction codec session data now
  | .other => some (server, [])

end CombatServer

/-- The server with its sessions; `missing` when a null pointer was dereferenced, `used`
    the ids that were generated. -/
structure World where
  server : CombatServer := {}
  sessions : List Session := []
  ended : List Session := []
  used : List Uuid := []
  sent : List (Output Session) := []
  missing : Bool := false

inductive Event
  | connected (session : Session)
  | recv (session : Session) (data : Bytes) (uuid : Uuid) (fresh now : BitVec 64)
  | disconnected (session : Session)
  deriving DecidableEq, Repr

/-- Sessions connect once, and a generated id is new and not nil. -/
def World.step (codec : BattleCodec) (w : World) : Event → Option World
  | .connected session =>
    if w.missing ∨ session ∈ w.sessions ∨ session ∈ w.ended then none
    else some { w with sessions := session :: w.sessions }
  | .recv session data uuid fresh now =>
    if w.missing ∨ session ∉ w.sessions ∨ uuid ∈ w.used ∨ uuid = nilUuid then none
    else match w.server.recvFinishHandler codec session data uuid fresh now with
      | none => some { w with missing := true }
      | some handled =>
        some { w with server := handled.1, used := uuid :: w.used, sent := w.sent ++ handled.2 }
  | .disconnected session =>
    if w.missing ∨ session ∉ w.sessions then none
    else match w.server.disconnectedHandler session with
      | none => some { w with missing := true }
      | some server =>
        some { w with
          server := server
          sessions := w.sessions.erase session
          ended := session :: w.ended }

end LaluneServer.Combat
