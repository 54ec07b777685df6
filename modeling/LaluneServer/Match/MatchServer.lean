import LaluneServer.Lib.Transition
import LaluneServer.ServerCommon.Frame

/- MatchServer: users wait in one queue, the ids of requested games in another, and a
   response of the battle server releases users from the front. -/
namespace LaluneServer.Match

open NetLib ServerCommon

abbrev Session := Nat

structure MessageTypes where
  automatchMatchRequest : Nat
  syncBattleCreateGame : Nat
  syncBattleCreateGameResponse : Nat

/-- `player_num` of MatchAndUserCommunicate.cpp. -/
def userPlayerNum : Nat := 1

/-- `player_num` of MatchAndCombatCommunicate.cpp. -/
def combatPlayerNum : Nat := 2

structure MatchServer where
  user : List Session := []
  gameId : List String := []
  deriving DecidableEq, Repr

/-- SendGameId to the battle server; `arrival` counts the users before the one that
    caused it. -/
structure GameRequest where
  type : Nat
  gameId : String
  arrival : Nat
  deriving DecidableEq, Repr

structure Release where
  type : Nat
  gameId : String
  users : List Session
  deriving DecidableEq, Repr

/-- `front` and `pop`, `n` times: nothing when the queue runs empty. -/
def popUsers : Nat → List Session → Option (List Session × List Session)
  | 0, queue => some ([], queue)
  | _ + 1, [] => none
  | n + 1, first :: queue =>
    (popUsers n queue).map (fun popped => (first :: popped.1, popped.2))

namespace MatchServer

def matchRequest (server : MatchServer) (session : Session) (uuid : String) :
    MatchServer × Option String :=
  let user := server.user ++ [session]
  if user.length = userPlayerNum then
    ({ user := user, gameId := server.gameId ++ [uuid] }, some uuid)
  else ({ server with user := user }, none)

def createGameResponse (types : MessageTypes) (server : MatchServer) :
    Option (MatchServer × Release) :=
  match server.gameId with
  | [] => none
  | gameIdOne :: gameId =>
    (popUsers combatPlayerNum server.user).map (fun popped =>
      ({ user := popped.2, gameId := gameId },
        ⟨types.automatchMatchRequest, gameIdOne, popped.1⟩))

end MatchServer

/-- The server with everything that arrived, was requested and was answered; `emptied`
    when `front` or `pop` met an empty queue. -/
structure World where
  server : MatchServer := {}
  client : Bool := false
  arrivals : List Session := []
  sent : List GameRequest := []
  answers : List Release := []
  emptied : Bool := false
  deriving DecidableEq, Repr

inductive Event
  | connected
  | userFrame (session : Session) (data : Bytes) (uuid : String)
  | battleFrame (data : Bytes)
  deriving DecidableEq, Repr

def isMessage (type : Nat) (data : Bytes) : Prop :=
  msgHeaderBaseSize ≤ msgLength data ∧ msgType data = type

instance (type : Nat) (data : Bytes) : Decidable (isMessage type data) :=
  inferInstanceAs (Decidable (_ ∧ _))

namespace World

/-- A request that is sent needs a client that has connected. -/
def matchRequest (types : MessageTypes) (w : World) (session : Session) (uuid : String) :
    Option World :=
  match w.server.matchRequest session uuid with
  | (server, none) => some { w with server := server, arrivals := w.arrivals ++ [session] }
  | (server, some gameId) =>
    if w.client then
      some { w with
        server := server
        arrivals := w.arrivals ++ [session]
        sent := w.sent ++ [⟨types.syncBattleCreateGame, gameId, w.arrivals.length⟩] }
    else none

def createGameResponse (types : MessageTypes) (w : World) : World :=
  match w.server.createGameResponse types with
  | none => { w with emptied := true }
  | some (server, release) => { w with server := server, answers := w.answers ++ [release] }

/-- The battle server answers each request once. -/
def step (types : MessageTypes) (w : World) : Event → Option World
  | .connected => some { w with client := true }
  | .userFrame session data uuid =>
    if w.emptied then none
    else if isMessage types.automatchMatchRequest data then
      w.matchRequest types session uuid
    else some w
  | .battleFrame data =>
    if w.emptied ∨ ¬w.client then none
    else if isMessage types.syncBattleCreateGameResponse data then
      if w.answers.length < w.sent.length then some (w.createGameResponse types) else none
    else some w

end World

/-- Groups of `size` users in the order of arrival: each complete group has caused one
    request, each response was answered to the users of the group that had asked for its
    game, and no queue ran empty. -/
structure Grouped (size : Nat) (w : World) : Prop where
  emptied : w.emptied = false
  requests : w.sent.map (fun request => request.arrival / size) = List.range w.sent.length
  complete : w.arrivals.length / size ≤ w.sent.length
  answers : ∀ j release, w.answers[j]? = some release →
    release.users.length = size ∧
      release.users = (w.arrivals.drop (size * j)).take size ∧
      (w.sent[j]?).map GameRequest.gameId = some release.gameId

/-- A response finds two users; a request that finds an odd number of users finds one,
    whose game id is queued. -/
def Orderly (types : MessageTypes) (w : World) : Event → Prop
  | .connected => True
  | .userFrame _ data _ => isMessage types.automatchMatchRequest data →
      w.server.user.length % 2 = 1 → w.server.user.length = 1 ∧ w.server.gameId ≠ []
  | .battleFrame data => isMessage types.syncBattleCreateGameResponse data →
      2 ≤ w.server.user.length

instance (types : MessageTypes) (w : World) : ∀ e, Decidable (Orderly types w e)
  | .connected => inferInstanceAs (Decidable True)
  | .userFrame .. => inferInstanceAs (Decidable (_ → _ → _ ∧ _))
  | .battleFrame _ => inferInstanceAs (Decidable (_ → _))

end LaluneServer.Match
